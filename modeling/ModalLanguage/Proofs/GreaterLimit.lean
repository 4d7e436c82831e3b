/-
Module: ModalLanguage.Proofs.GreaterLimit
Purpose: What a greater limit changes. The limit is asked for one thing only, whether a formula that
  was just made is too deep, and a greater limit allows all that a smaller one does. So two readings
  of the same tokens under two limits go through the same configurations until the smaller limit stops
  one of them (`Configuration.steps_unlessTooDeep`), and every other outcome is the same under both. A
  text that is too deep for one limit may be refused for another reason under a greater one, but never
  the other way round.
Main exports: UnlessTooDeep, Limit.allows_mono, Configuration.step_unlessTooDeep,
  Configuration.steps_unlessTooDeep, Configuration.finish_unlessTooDeep, Parser.TooDeep,
  Parser.greater_limit_keeps_outcome
-/
import ModalLanguage.Proofs.Reading

namespace ModalLanguage

/-- A reading either stops at an operator that is too deep, or comes to the same as another one. -/
inductive UnlessTooDeep {α : Type} (other : Except Failure α) : Except Failure α → Prop where
  | same : UnlessTooDeep other other
  | tooDeep (operator : Token) : UnlessTooDeep other (.error (.tooDeep operator))

/-- Readings that go on in the same way keep to each other. -/
theorem UnlessTooDeep.bind {α β : Type} {x y : Except Failure α} {f g : α → Except Failure β}
    (first : UnlessTooDeep y x) (second : ∀ a, UnlessTooDeep (g a) (f a)) :
    UnlessTooDeep (y >>= g) (x >>= f) := by
  cases first with
  | tooDeep operator => exact .tooDeep operator
  | same =>
      cases x with
      | error failure => exact .same
      | ok a => exact second a

theorem Limit.allows_mono {small great : Limit} (within : small.nesting ≤ great.nesting)
    {f : Formula} (allowed : small.allows f = true) : great.allows f = true := by
  rw [allows, decide_eq_true_eq] at allowed ⊢
  exact allowed.trans within

section Limits

variable {small great : Limit} (within : small.nesting ≤ great.nesting)

include within

theorem closeFrames_unlessTooDeep (next : Follower) (frames : List Frame) (f : Formula)
    (isSealed : Bool) :
    UnlessTooDeep (closeFrames great next frames f isSealed)
      (closeFrames small next frames f isSealed) := by
  fun_induction closeFrames small next frames f isSealed with
  | case1 token operator frames f isSealed closed allowed ih =>
      rw [closeFrames, if_pos closed, if_pos (Limit.allows_mono within allowed)]
      exact ih
  | case2 token operator frames f isSealed closed tooDeep => exact .tooDeep token
  | case3 token operator frames f isSealed stays =>
      rw [closeFrames, if_neg stays]
      exact .same
  | case4 frames f isSealed notWaiting =>
      rcases eq_nil_or_bracket notWaiting with rfl | ⟨outer, rfl⟩ <;> exact .same

namespace Configuration

theorem stepPhrase_unlessTooDeep (c : Configuration) (phrase : Formula) (token : Token) :
    UnlessTooDeep (c.stepPhrase great phrase token) (c.stepPhrase small phrase token) := by
  unfold stepPhrase
  cases (Lookahead.token token.kind).follower? with
  | none => exact .same
  | some next =>
      simp only
      have closes := closeFrames_unlessTooDeep within next c.frames phrase false
      generalize closeFrames small next c.frames phrase false = closed at closes
      cases closes with
      | same => exact .same
      | tooDeep operator => exact .tooDeep operator

/-- One token: only where it follows a complete phrase the limit has a say. -/
theorem step_unlessTooDeep (c : Configuration) (token : Token) :
    UnlessTooDeep (c.step great token) (c.step small token) := by
  obtain ⟨frames, focus⟩ := c
  cases focus with
  | name name =>
      simp only [step]
      split
      · exact .same
      · exact stepPhrase_unlessTooDeep within _ _ token
  | complete phrase => exact stepPhrase_unlessTooDeep within _ phrase token
  | _ => exact .same

/-- Tokens one after another. -/
theorem steps_unlessTooDeep (c : Configuration) (tokens : List Token) :
    UnlessTooDeep (c.steps great tokens) (c.steps small tokens) := by
  induction tokens generalizing c with
  | nil => exact .same
  | cons token tokens ih => exact (step_unlessTooDeep within c token).bind ih

theorem finish_unlessTooDeep (c : Configuration) :
    UnlessTooDeep (c.finish great) (c.finish small) := by
  rw [finish_eq_settle, finish_eq_settle]
  refine UnlessTooDeep.bind ?_ fun phrase => .same
  unfold settle
  cases c.phrase? with
  | none => exact .same
  | some phrase => exact closeFrames_unlessTooDeep within .ending c.frames phrase false

end Configuration

end Limits

/-! ### Parsing -/

namespace Parser

/-- A parse ends with the error that the limit is exceeded. -/
def TooDeep (outcome : Except Error Formula) : Prop :=
  ∃ error, outcome = .error error ∧ error.isTooDeep = true

theorem tooDeep_report (text : String) (limit : Limit) (operator : Token) :
    TooDeep (.error (.parse ((Failure.tooDeep operator).report text limit))) :=
  ⟨_, rfl, rfl⟩

/-- The report of a failure names the limit only where that is exceeded. -/
theorem report_eq_or_tooDeep (text : String) (small great : Limit) (failure : Failure) :
    TooDeep (.error (.parse (failure.report text small))) ∨
      failure.report text great = failure.report text small := by
  cases failure with
  | unexpected found expected => cases found <;> exact .inr rfl
  | unknownAgent name => exact .inr rfl
  | tooDeep operator => exact .inl (tooDeep_report text small operator)

section Reports

variable {small great : Limit} {text : String} {α : Type}

/-- How a reading within a limit goes on, once its failures are reported. -/
def reporting (text : String) (limit : Limit) (reading : Except Failure α)
    (rest : α → Except Error Formula) : Except Error Formula :=
  match reading with
  | .error failure => .error (.parse (failure.report text limit))
  | .ok a => rest a

/-- Two readings that keep to each other and go on to outcomes that do so have such outcomes. -/
theorem reporting_eq_or_tooDeep {x y : Except Failure α} (keeps : UnlessTooDeep y x)
    {f g : α → Except Error Formula} (rest : ∀ a, TooDeep (f a) ∨ g a = f a) :
    TooDeep (reporting text small x f) ∨ reporting text great y g = reporting text small x f := by
  cases keeps with
  | tooDeep operator => exact .inl (tooDeep_report text small operator)
  | same =>
      cases x with
      | ok a => exact rest a
      | error failure =>
          refine (report_eq_or_tooDeep text small great failure).imp_right fun same => ?_
          simp only [reporting, same]

end Reports

theorem parse_eq_reporting (p : Parser) (text : String) :
    p.parse text =
      reporting text p.limit (Configuration.start.steps p.limit (tokenize text).tokens) fun c =>
        match (tokenize text).fault with
        | some fault => .error (.invalid fault)
        | none => reporting text p.limit (c.finish p.limit) .ok := by
  rw [parse_eq]
  cases Configuration.start.steps p.limit (tokenize text).tokens with
  | error failure => rfl
  | ok c =>
      cases (tokenize text).fault with
      | some fault => rfl
      | none =>
          simp only [reporting]
          cases c.finish p.limit <;> rfl

/-- A limit that is not smaller keeps every outcome but the error that the limit is exceeded: the same
    formula, or the same error at the same place. So a text that is too deep for it is too deep for
    the smaller limit too. -/
theorem greater_limit_keeps_outcome (p q : Parser) (within : p.limit.nesting ≤ q.limit.nesting)
    (text : String) :
    (¬ TooDeep (p.parse text) → q.parse text = p.parse text) ∧
      (TooDeep (q.parse text) → TooDeep (p.parse text)) := by
  have keeps : TooDeep (p.parse text) ∨ q.parse text = p.parse text := by
    rw [parse_eq_reporting, parse_eq_reporting]
    apply reporting_eq_or_tooDeep (Configuration.steps_unlessTooDeep within .start _)
    intro c
    cases (tokenize text).fault with
    | some fault => exact .inr rfl
    | none =>
        apply reporting_eq_or_tooDeep (c.finish_unlessTooDeep within)
        intro f
        exact .inr rfl
  constructor
  · intro allowed
    exact keeps.resolve_left allowed
  · intro tooDeep
    rcases keeps with tooDeep' | same
    · exact tooDeep'
    · rwa [← same]

/-- Two negations are completed by a bracket that cannot stand there, and under the smaller limit
    they are too deep. Under the greater limits the bracket is refused, whatever the limit. -/
theorem greater_limit_unopened_bracket :
    3 ≤ standard.limit.nesting ∧ TooDeep ((⟨⟨2, by decide⟩⟩ : Parser).parse "~~p )") ∧
      ¬ TooDeep ((⟨⟨3, by decide⟩⟩ : Parser).parse "~~p )") ∧
      standard.parse "~~p )" = (⟨⟨3, by decide⟩⟩ : Parser).parse "~~p )" := by
  have deep : ((⟨⟨2, by decide⟩⟩ : Parser).run "~~p )").outcome =
      .error (.failure (.tooDeep ⟨.negation, "~", 0⟩)) := by
    decide +kernel
  have refused : ((⟨⟨3, by decide⟩⟩ : Parser).run "~~p )").outcome =
      .error (.failure (.unexpected (some ⟨.closing, ")", 4⟩) [.ending, .token .opening,
        .token .conjunction, .token .disjunction, .token .implication, .token .biconditional])) := by
    decide +kernel
  have tooDeep : TooDeep ((⟨⟨2, by decide⟩⟩ : Parser).parse "~~p )") := by
    rw [parse, deep]
    exact tooDeep_report _ _ _
  have allowed : ¬ TooDeep ((⟨⟨3, by decide⟩⟩ : Parser).parse "~~p )") := by
    rw [parse, refused]
    rintro ⟨error, failed, isTooDeep⟩
    cases failed
    cases isTooDeep
  have within : 3 ≤ standard.limit.nesting := by decide
  exact ⟨within, tooDeep, allowed, (greater_limit_keeps_outcome _ standard within _).1 allowed⟩

end Parser

end ModalLanguage
