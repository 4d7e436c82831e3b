/-
Module: ModalLanguage.Proofs.StackReading
Purpose: The automaton reads what a configuration reads. A stack holds a configuration when it holds
  its frames and, above them, what the focus has (`Holds`). From such a stack the engine shifts a
  token where the configuration takes it, refuses it where the configuration refuses it, and fails
  with the same failure (`Holds.step`); and so for the end (`Holds.finish`).
Main exports: Completed, Holds, Agrees, agrees_stepPhrase, Holds.step, Holds.finish,
  Holds.exists_readTokens?
-/
import ModalLanguage.Proofs.StackLayout

namespace ModalLanguage.Automaton

/-! ### Configurations on the stack -/

/-- A stack on top of which an atom, a predicate, a truth value or a phrase in brackets is complete
    by the rule of its state, above what is `below`. -/
structure Completed (f : Formula) (stack below : List Cell) : Prop where
  reduces : ∃ rule b, (top stack).completed? = some rule ∧ rule ≠ .loosen .formula ∧
    (∀ ahead : Lookahead, rule.follows ahead = ahead.follower?.isSome) ∧
    ∀ limit, reduce limit rule stack = push (.base b) (.formula f) below

theorem completed_atom (name : Token) (below : List Cell) :
    Completed (.atom name.value) (⟨.name, .token name⟩ :: below) below :=
  ⟨.atom, .atom, rfl, Rule.noConfusion, fun _ => rfl, fun _ => rfl⟩

theorem completed_constant (value : Bool) (token : Token) (below : List Cell) :
    Completed (.constant value) (⟨.constant value, .token token⟩ :: below) below :=
  ⟨.constant value, .atom, rfl, Rule.noConfusion, fun _ => rfl, fun _ => rfl⟩

theorem completed_predicate (name opening closing : Token) (first : String) (rest : List String)
    (below : List Cell) :
    Completed (.predicate name.value first rest)
      (⟨.closed, .token closing⟩ :: ⟨.arguments, .arguments first rest⟩ ::
        ⟨.opened, .token opening⟩ :: ⟨.name, .token name⟩ :: below) below :=
  ⟨.predicate, .predicate, rfl, Rule.noConfusion, fun _ => rfl, fun _ => rfl⟩

theorem completed_bracketed (f : Formula) (opening closing : Token) (below : List Cell) :
    Completed f
      (⟨.bracketed, .token closing⟩ :: ⟨.filled .bracket, .formula f⟩ ::
        ⟨.awaiting .bracket, .token opening⟩ :: below) below :=
  ⟨.bracketed, .atom, rfl, Rule.noConfusion, fun _ => rfl, fun _ => rfl⟩

/-- A stack that holds a configuration. The tokens that a configuration does not keep can be any. -/
inductive Holds : Configuration → List Cell → Prop where
  | operand {frames : List Frame} {stack : List Cell} (laid : Laid frames stack)
      (takesNegation : refusesNegation frames = false) : Holds ⟨frames, .operand⟩ stack
  | modality {frames : List Frame} {stack : List Cell} (token : Token) (op : Modality)
      (laid : Laid frames stack) :
      Holds ⟨frames, .modality token op⟩ (⟨.awaiting (.modal op), .token token⟩ :: stack)
  | subscript {frames : List Frame} {stack : List Cell} (token mark : Token) (op : Modality)
      (laid : Laid frames stack) :
      Holds ⟨frames, .subscript token op⟩
        (⟨.subscript op, .token mark⟩ :: ⟨.awaiting (.modal op), .token token⟩ :: stack)
  | agent {frames : List Frame} {stack : List Cell} (token mark name : Token) (op : Modality)
      (isLetter : Bool) (laid : Laid frames stack) :
      Holds ⟨frames, .agent token op name⟩
        (⟨.agent isLetter, .token name⟩ :: ⟨.subscript op, .token mark⟩ ::
          ⟨.awaiting (.modal op), .token token⟩ :: stack)
  | quantifier {frames : List Frame} {stack : List Cell} (token : Token) (op : Quantifier)
      (laid : Laid frames stack) :
      Holds ⟨frames, .quantifier token op⟩ (⟨.quantifier op, .token token⟩ :: stack)
  | bound {frames : List Frame} {stack : List Cell} (token bound : Token) (op : Quantifier)
      (laid : Laid frames stack) :
      Holds ⟨frames, .bound token op bound.value⟩
        (⟨.awaiting (.narrow op), .token bound⟩ :: ⟨.quantifier op, .token token⟩ :: stack)
  | name {frames : List Frame} {stack : List Cell} (name : Token) (laid : Laid frames stack) :
      Holds ⟨frames, .name name.value⟩ (⟨.name, .token name⟩ :: stack)
  | opened {frames : List Frame} {stack : List Cell} (name opening : Token)
      (laid : Laid frames stack) :
      Holds ⟨frames, .arguments name.value⟩
        (⟨.opened, .token opening⟩ :: ⟨.name, .token name⟩ :: stack)
  | firstArgument {frames : List Frame} {stack : List Cell} (name opening first : Token)
      (laid : Laid frames stack) :
      Holds ⟨frames, .argument name.value first.value []⟩
        (⟨.firstArgument, .token first⟩ :: ⟨.opened, .token opening⟩ :: ⟨.name, .token name⟩ ::
          stack)
  | nextArgument {frames : List Frame} {stack : List Cell} (name opening comma last : Token)
      (first : String) (rest : List String) (laid : Laid frames stack) :
      Holds ⟨frames, .argument name.value first (last.value :: rest)⟩
        (⟨.nextArgument, .token last⟩ :: ⟨.comma, .token comma⟩ ::
          ⟨.arguments, .arguments first rest.reverse⟩ :: ⟨.opened, .token opening⟩ ::
          ⟨.name, .token name⟩ :: stack)
  | separator {frames : List Frame} {stack : List Cell} (name opening comma : Token)
      (first : String) (rest : List String) (laid : Laid frames stack) :
      Holds ⟨frames, .separator name.value first rest⟩
        (⟨.comma, .token comma⟩ :: ⟨.arguments, .arguments first rest.reverse⟩ ::
          ⟨.opened, .token opening⟩ :: ⟨.name, .token name⟩ :: stack)
  | complete {frames : List Frame} {stack below : List Cell} {f : Formula}
      (completed : Completed f stack below) (noShift : ∀ ahead, (top stack).shift? ahead = none)
      (laid : Laid frames below) : Holds ⟨frames, .complete f⟩ stack

theorem holds_start : Holds .start [] := .operand .start rfl

/-- A reading and the engine agree: what passes in one passes in the other, and they refuse or fail
    together. -/
inductive Agrees {α : Type} (passes : α → Verdict → Prop) : Except Failure α → Verdict → Prop where
  | passed {a : α} {verdict : Verdict} (pass : passes a verdict) : Agrees passes (.ok a) verdict
  | refused (found : Option Token) (expected : List Lookahead) :
      Agrees passes (.error (.unexpected found expected)) .refused
  | unknownAgent (name : Token) :
      Agrees passes (.error (.unknownAgent name)) (.failed (.unknownAgent name))
  | tooDeep (operator : Token) :
      Agrees passes (.error (.tooDeep operator)) (.failed (.tooDeep operator))

/-- A token is shifted, and the stack holds the configuration behind it. -/
def ShiftsTo (next : Configuration) (verdict : Verdict) : Prop :=
  ∃ stack, verdict = .shifted stack ∧ Holds next stack

/-- The end is accepted with a formula. -/
def Accepts (f : Formula) (verdict : Verdict) : Prop := verdict = .accepted f

section Settling

variable {limit : Limit} {stack : List Cell}

theorem settle_refuse {found : Option Token} (nothing : (top stack).action (aheadOf found) = none) :
    settle limit found stack = .refused := by
  apply settle_of_settled
  simp only [round, nothing]

theorem agrees_shift {next : Configuration} {token : Token} (state : State)
    (shifts : (top stack).shift token.kind = some state)
    (holds : Holds next (⟨state, .token token⟩ :: stack)) :
    Agrees ShiftsTo (.ok next) (settle limit (some token) stack) := by
  refine .passed ⟨_, settle_of_settled ?_, holds⟩
  simp only [round, aheadOf, State.action, State.shift?, shifts]

theorem agrees_refuse {c : Configuration} {token : Token}
    (nothing : (top stack).action (aheadOf (some token)) = none) :
    Agrees ShiftsTo (c.refuse token) (settle limit (some token) stack) := by
  rw [settle_refuse nothing]
  exact .refused _ _

/-- The engine goes on behind a reduction, and what agrees then agrees before. -/
theorem agrees_reduce {α : Type} {passes : α → Verdict → Prop} {outcome : Except Failure α}
    {found : Option Token} {stack' : List Cell} (rule : Rule)
    (prescribed : (top stack).action (aheadOf found) = some (.reduce rule))
    (reduced : reduce limit rule stack = .reduced stack')
    (agrees : Agrees passes outcome (settle limit found stack')) :
    Agrees passes outcome (settle limit found stack) := by
  rw [settle_of_reduce rule prescribed reduced]
  exact agrees

theorem action_eq_none {token : Token} (incomplete : (top stack).completed? = none)
    (noShift : (top stack).shift token.kind = none) :
    (top stack).action (aheadOf (some token)) = none := by
  simp only [State.action, aheadOf, State.shift?, noShift, State.reduction, incomplete]

/-- Where nothing is complete a token is shifted or refused. -/
theorem agrees_of_shift? {c : Configuration} {token : Token} {next? : Option Configuration}
    (incomplete : (top stack).completed? = none)
    (taken : ∀ next, next? = some next → ∃ state, (top stack).shift token.kind = some state ∧
      Holds next (⟨state, .token token⟩ :: stack))
    (refused : next? = none → (top stack).shift token.kind = none) :
    Agrees ShiftsTo (c.orRefuse token next?) (settle limit (some token) stack) := by
  cases next? with
  | some next =>
      obtain ⟨state, shifts, holds⟩ := taken next rfl
      exact agrees_shift state shifts holds
  | none => exact agrees_refuse (action_eq_none incomplete (refused rfl))

end Settling

/-! ### One token -/

section Tokens

variable {limit : Limit} {c : Configuration} {stack : List Cell} {frames : List Frame}
  {token : Token}

/-- No rule is complete where an operand is to come. -/
theorem State.completed?_of_hole? {state : State} {wanted : Stratum}
    (isHole : state.hole? = some wanted) : state.completed? = none := by
  cases state with
  | start | awaiting => rfl
  | _ => cases isHole

/-- Behind the first token of an operand the stack holds the configuration behind it. -/
theorem exists_holds_of_beginOperand {next : Configuration} (laid : Laid frames stack)
    (begun : beginOperand frames token = some next) :
    ∃ state, State.beginning (hole frames) token.kind = some state ∧
      Holds next (⟨state, .token token⟩ :: stack) := by
  unfold beginOperand at begun
  obtain ⟨kind, isKind⟩ : ∃ kind, token.kind = kind := ⟨_, rfl⟩
  rw [isKind] at begun ⊢
  cases kind with
  | letter =>
      cases begun
      exact ⟨_, rfl, .name token laid⟩
  | verum | falsum =>
      cases begun
      exact ⟨_, rfl, .complete (completed_constant _ token stack) (by rintro (_ | _) <;> rfl) laid⟩
  | box | diamond =>
      cases begun
      exact ⟨_, rfl, .modality token _ laid⟩
  | universal | existential =>
      cases begun
      exact ⟨_, rfl, .quantifier token _ laid⟩
  | opening =>
      cases begun
      exact ⟨_, rfl, .operand (.bracket token laid) rfl⟩
  | negation =>
      simp only [refusesNegation_eq_true_iff] at begun
      split at begun
      · cases begun
      · rename_i notTight
        cases begun
        have fits : (hole frames).level ≤ Operator.negation.stratum.level := by
          cases isHole : hole frames <;> first | exact absurd isHole notTight | decide
        exact ⟨_, if_neg notTight, .operand (.waiting laid fits .negation) rfl⟩
  | _ => cases begun

theorem beginning_eq_none (nothing : beginOperand frames token = none) :
    State.beginning (hole frames) token.kind = none := by
  have begun := isSome_beginOperand frames token
  rw [nothing] at begun
  cases isKind : token.kind <;> simp_all [State.beginning, Kind.beginsTight,
    refusesNegation_eq_true_iff]

/-- An operand begins with the same tokens. -/
theorem agrees_beginOperand (laid : Laid frames stack)
    (begins : (top stack).shift token.kind = State.beginning (hole frames) token.kind) :
    Agrees ShiftsTo (c.orRefuse token (beginOperand frames token))
      (settle limit (some token) stack) := by
  refine agrees_of_shift? (State.completed?_of_hole? laid.hole?) ?_ ?_
  · intro next begun
    rw [begins]
    exact exists_holds_of_beginOperand laid begun
  · intro nothing
    rw [begins]
    exact beginning_eq_none nothing

/-- A connective is shifted behind a phrase of the stratum of its left operand. -/
theorem shift_place_left {wanted : Stratum} {op : Connective} {state : State}
    (isHole : state.hole? = some wanted) (fits : wanted.level ≤ op.stratum.level) :
    (state.place op.left).shift op.kind = some (.awaiting (.right op)) := by
  have inner : (State.inner op.left).shift op.kind = some (.awaiting (.right op)) := by
    cases op <;> rfl
  cases state with
  | awaiting slot =>
      cases isHole
      by_cases isWanted : op.left = slot.wants
      · rw [State.place, if_pos isWanted]
        -- the right operand of a disjunction, which a conjunction goes on with
        cases slot with
        | right first =>
            revert fits isWanted
            cases first <;> cases op <;> decide
        | _ => cases op <;> cases isWanted
      · rw [State.place, if_neg isWanted]
        exact inner
  | _ => exact inner

/-- A phrase inside no frame or a bracket is a whole formula before everything that cannot join
    it. -/
theorem settle_formula {found : Option Token} {next : Follower} {s : Stratum} {f : Formula}
    (follows : aheadOf found = next.ahead) (laid : Laid frames stack)
    (whole : hole frames = .formula)
    (apart : ∀ op, next = .connective op → s.level < op.left.level) :
    settle limit found (phraseOn s f stack) = settle limit found (phraseOn .formula f stack) :=
  settle_climb f follows laid.hole? (by rw [whole]) (Nat.zero_le _)
    fun op isNext => .inr (apart op isNext)

/-- What stands around a phrase when no operator can be completed. -/
theorem Stopped.eq_nil_or_bracket {next : Follower} {isSealed : Bool}
    (stopped : Stopped next frames isSealed)
    (ends : ∀ operator : Operator, hole frames = operator.operand →
      operator.closedBy next isSealed = true) :
    frames = [] ∨ ∃ outer, frames = .bracket :: outer := by
  apply ModalLanguage.eq_nil_or_bracket
  rintro token operator outer rfl
  have stays := stopped token operator outer rfl
  rw [ends operator rfl] at stays
  cases stays

/-- A closing bracket is shifted behind the formula in the brackets, and refused where none is
    open. -/
theorem agrees_closing {s : Stratum} {f : Formula} {isSealed : Bool}
    (follows : aheadOf (some token) = Follower.closing.ahead) (laid : Laid frames stack)
    (stopped : Stopped .closing frames isSealed) :
    Agrees ShiftsTo (c.orRefuse token (takeFollower token .closing ⟨frames, f, isSealed⟩))
      (settle limit (some token) (phraseOn s f stack)) := by
  have closing : token.kind = .closing := Lookahead.token.inj follows
  rcases stopped.eq_nil_or_bracket (fun operator _ => operator.closedBy_closing isSealed) with
    rfl | ⟨outer, rfl⟩
  · rw [settle_formula follows laid rfl (by rintro op ⟨⟩)]
    refine agrees_refuse ?_
    cases laid
    rw [follows]
    rfl
  · rw [settle_formula follows laid rfl (by rintro op ⟨⟩)]
    cases laid with
    | bracket opening laidOuter =>
        refine agrees_shift .bracketed ?_ (.complete
          (completed_bracketed f opening token _) (by rintro (_ | _) <;> rfl) laidOuter)
        rw [closing]
        rfl

/-- A connective that stops the frames has a stratum that their hole takes. -/
theorem Stopped.hole_le {op : Connective} (stopped : Stopped (.connective op) frames false) :
    (hole frames).level ≤ op.stratum.level := by
  rcases frames with _ | ⟨_ | ⟨token, operator⟩, outer⟩
  · exact Nat.zero_le _
  · exact Nat.zero_le _
  · have stays := stopped token operator outer rfl
    rw [← Bool.not_eq_true, operator.closedBy_connective] at stays
    exact Nat.not_lt.1 stays

/-- A connective is shifted behind its left operand. -/
theorem agrees_connective {op : Connective} {s : Stratum} {f : Formula}
    (follows : aheadOf (some token) = (Follower.connective op).ahead) (laid : Laid frames stack)
    (faces : Faces (.connective op) frames s false)
    (stopped : Stopped (.connective op) frames false) :
    Agrees ShiftsTo (c.orRefuse token (takeFollower token (.connective op) ⟨frames, f, false⟩))
      (settle limit (some token) (phraseOn s f stack)) := by
  have isOp : token.kind = op.kind := Lookahead.token.inj follows
  have fits : (hole frames).level ≤ (Operator.binary op f).stratum.level := stopped.hole_le
  have joins : op.left.level ≤ s.level := by
    rcases faces.joins op rfl with joins | ⟨isSealed, -⟩
    · exact joins
    · cases isSealed
  rw [settle_climb f follows laid.hole? (fits.trans op.stratum_le_left) joins]
  · refine agrees_shift (.awaiting (.right op)) ?_ (.operand ?_ rfl)
    · rw [isOp]
      exact shift_place_left laid.hole? fits
    · have written : Written (entry frames) token (.binary op f) _ := .binary op f
      rw [phraseOn, laid.top_eq]
      exact .waiting laid fits written
  · rintro later same
    cases same
    exact .inl (Nat.le_refl _)

/-- A second biconditional is refused behind one that is a whole formula. -/
theorem agrees_sealed {op : Connective} {s : Stratum} {f : Formula}
    (follows : aheadOf (some token) = (Follower.connective op).ahead) (laid : Laid frames stack)
    (faces : Faces (.connective op) frames s true)
    (stopped : Stopped (.connective op) frames true) :
    Agrees ShiftsTo (c.orRefuse token (takeFollower token (.connective op) ⟨frames, f, true⟩))
      (settle limit (some token) (phraseOn s f stack)) := by
  obtain rfl := faces.sealed rfl
  obtain rfl : op = .biconditional := by
    rcases faces.joins op rfl with joins | ⟨-, second⟩
    · exact absurd (op.two_le_left.trans joins) (by decide)
    · exact second
  have around : frames = [] ∨ ∃ outer, frames = .bracket :: outer := by
    refine stopped.eq_nil_or_bracket ?_
    intro operator isHole
    have fits := faces.fits
    rw [isHole] at fits
    cases operator with
    | binary first left => exact absurd (first.two_le_right.trans fits) (by decide)
    | wide => rfl
    | _ => rfl
  have whole : hole frames = .formula := by rcases around with rfl | ⟨outer, rfl⟩ <;> rfl
  rw [settle_formula follows laid whole]
  · refine agrees_refuse ?_
    rw [top_phraseOn, laid.top_eq, follows]
    rcases around with rfl | ⟨outer, rfl⟩ <;> rfl
  · rintro later same
    cases same
    decide

/-- Behind what was completed a follower is shifted or refused. -/
theorem agrees_takeFollower {next : Follower} {s : Stratum} {phrase : Phrase}
    (follows : aheadOf (some token) = next.ahead) (laid : Laid phrase.frames stack)
    (faces : Faces next phrase.frames s phrase.isSealed)
    (stopped : Stopped next phrase.frames phrase.isSealed) :
    Agrees ShiftsTo (c.orRefuse token (takeFollower token next phrase))
      (settle limit (some token) (phraseOn s phrase.formula stack)) := by
  obtain ⟨frames, f, isSealed⟩ := phrase
  cases next with
  | ending => cases follows
  | closing => exact agrees_closing follows laid stopped
  | connective op =>
      cases isSealed with
      | false => exact agrees_connective follows laid faces stopped
      | true => exact agrees_sealed follows laid faces stopped

/-- Before a follower what is complete by its own rule counts as a tight phrase. -/
theorem Completed.settle {found : Option Token} {next : Follower} {f : Formula}
    {below : List Cell} (completed : Completed f stack below)
    (noShift : (top stack).shift? (aheadOf found) = none) (laid : Laid frames below)
    (follows : aheadOf found = next.ahead) :
    settle limit found stack = settle limit found (phraseOn .tight f below) := by
  obtain ⟨rule, b, complete, notGoal, ruleFollows, reduces⟩ := completed
  have reducible : rule.follows (aheadOf found) = true := by
    rw [ruleFollows, follows, Follower.follower?_ahead]
    rfl
  rw [← settle_base b f follows laid.hole?]
  refine settle_of_reduce _ (State.action_of_completed complete notGoal reducible noShift) ?_
  rw [reduces, push_base b f laid.hole?]

/-- It is refused before everything that follows no phrase. -/
theorem Completed.settle_refused {found : Option Token} {f : Formula} {below : List Cell}
    (completed : Completed f stack below) (noShift : (top stack).shift? (aheadOf found) = none)
    (noFollower : (aheadOf found).follower? = none) :
    Automaton.settle limit found stack = .refused := by
  obtain ⟨rule, b, complete, notGoal, ruleFollows, reduces⟩ := completed
  apply settle_refuse
  simp [State.action, noShift, State.reduction, complete, ruleFollows, noFollower]

theorem agrees_stepPhrase {f : Formula} {below : List Cell} (completed : Completed f stack below)
    (noShift : (top stack).shift? (aheadOf (some token)) = none) (laid : Laid c.frames below) :
    Agrees ShiftsTo (c.stepPhrase limit f token) (settle limit (some token) stack) := by
  unfold Configuration.stepPhrase
  split
  · rename_i noFollower
    rw [completed.settle_refused noShift noFollower]
    exact .refused _ _
  · rename_i next isFollower
    have follows : aheadOf (some token) = next.ahead := Lookahead.follower?_eq_some_iff.1 isFollower
    rw [completed.settle noShift laid follows]
    have faces := faces_tight next c.frames
    split
    · rename_i failure failed
      obtain ⟨operator, rfl⟩ := closeFrames_error failed
      rw [settle_closeFrames_error follows laid faces failed]
      exact .tooDeep operator
    · rename_i phrase closed
      obtain ⟨s, stack', laid', faces', stopped, settled⟩ :=
        exists_settle_closeFrames follows laid faces closed
      rw [settled]
      exact agrees_takeFollower follows laid' faces' stopped

theorem agrees_finishPhrase {f : Formula} {below : List Cell} (completed : Completed f stack below)
    (laid : Laid c.frames below) :
    Agrees Accepts (c.finishPhrase limit f) (settle limit none stack) := by
  have follows : aheadOf none = Follower.ending.ahead := rfl
  have faces := faces_tight .ending c.frames
  rw [completed.settle rfl laid follows]
  unfold Configuration.finishPhrase
  split
  · rename_i failure failed
    obtain ⟨operator, rfl⟩ := closeFrames_error failed
    rw [settle_closeFrames_error follows laid faces failed]
    exact .tooDeep operator
  · rename_i g isSealed closed
    obtain ⟨s, stack', laid', faces', stopped, settled⟩ :=
      exists_settle_closeFrames follows laid faces closed
    rw [settled, settle_formula follows laid' rfl (by rintro op ⟨⟩)]
    cases laid'
    refine .passed (settle_of_settled ?_)
    rfl
  · rename_i phrase stillOpen closed
    obtain ⟨s, stack', laid', faces', stopped, settled⟩ :=
      exists_settle_closeFrames follows laid faces closed
    rcases stopped.eq_nil_or_bracket (fun operator _ => operator.closedBy_ending phrase.isSealed)
      with nothing | ⟨outer, isBracket⟩
    · obtain ⟨frames, formula, isSealed⟩ := phrase
      cases nothing
      exact (stillOpen _ _ rfl).elim
    · have whole : hole phrase.frames = .formula := by rw [isBracket]; rfl
      rw [settled, settle_formula follows laid' whole (by rintro op ⟨⟩), settle_refuse]
      · exact .refused _ _
      · rw [top_phraseOn, laid'.top_eq, isBracket]
        rfl

/-- Where only tokens of some kinds can stand. -/
theorem agrees_only {accepted : Prop} [Decidable accepted] {next : Configuration} {state : State}
    (incomplete : (top stack).completed? = none)
    (only : (top stack).shift token.kind = if accepted then some state else none)
    (holds : Holds next (⟨state, .token token⟩ :: stack)) :
    Agrees ShiftsTo (if accepted then .ok next else c.refuse token)
      (settle limit (some token) stack) := by
  split
  · rename_i isAccepted
    rw [if_pos isAccepted] at only
    exact agrees_shift state only holds
  · rename_i isOther
    rw [if_neg isOther] at only
    exact agrees_refuse (action_eq_none incomplete only)

/-- Where an operand can begin, or a mark stand in front of it. -/
theorem agrees_mark_or_operand {marked : Prop} [Decidable marked] {next : Configuration}
    {state : State} (laid : Laid frames stack)
    (begins : (top stack).shift token.kind =
      if marked then some state else State.beginning (hole frames) token.kind)
    (holds : Holds next (⟨state, .token token⟩ :: stack)) :
    Agrees ShiftsTo (if marked then .ok next else c.orRefuse token (beginOperand frames token))
      (settle limit (some token) stack) := by
  split
  · rename_i isMarked
    rw [if_pos isMarked] at begins
    exact agrees_shift state begins holds
  · rename_i noMark
    rw [if_neg noMark] at begins
    exact agrees_beginOperand laid begins

/-- Behind an argument, which is added to those before it when a comma or a bracket follows. -/
theorem agrees_argument (name opening : Token) {first : String} {rest : List String} {rule : Rule}
    {below : List Cell} (laid : Laid frames below) (complete : (top stack).completed? = some rule)
    (notGoal : rule ≠ .loosen .formula)
    (noShift : (top stack).shift? (aheadOf (some token)) = none)
    (follows : ∀ ahead : Lookahead,
      rule.follows ahead = (ahead == .token .comma || ahead == .token .closing))
    (reduces : reduce limit rule stack =
      .reduced (⟨.arguments, .arguments first rest.reverse⟩ :: ⟨.opened, .token opening⟩ ::
        ⟨.name, .token name⟩ :: below)) :
    Agrees ShiftsTo (Configuration.step limit ⟨frames, .argument name.value first rest⟩ token)
      (settle limit (some token) stack) := by
  have followed : rule.follows (aheadOf (some token)) =
      (token.kind == .comma || token.kind == .closing) := by
    rw [follows, aheadOf]
    cases token.kind <;> rfl
  simp only [Configuration.step]
  split
  · rename_i isComma
    refine agrees_reduce rule (State.action_of_completed complete notGoal ?_ noShift) reduces
      (agrees_shift .comma ?_ (.separator name opening token first rest laid))
    · simp [followed, isComma]
    · rw [isComma]
      rfl
  · split
    · rename_i isClosing
      refine agrees_reduce rule (State.action_of_completed complete notGoal ?_ noShift) reduces
        (agrees_shift .closed ?_ (.complete (completed_predicate name opening token first _ _)
          (by rintro (_ | _) <;> rfl) laid))
      · simp [followed, isClosing]
      · rw [isClosing]
        rfl
    · rename_i notComma notClosing
      refine agrees_refuse ?_
      simp [State.action, noShift, State.reduction, complete, followed, notComma, notClosing]

/-- Behind the name of an agent, which is looked up when the operand begins. -/
theorem agrees_agent {op mark name : Token} {modality : Modality} (isLetter : Bool)
    (laid : Laid frames stack) :
    Agrees ShiftsTo (Configuration.step limit ⟨frames, .agent op modality name⟩ token)
      (settle limit (some token)
        (⟨.agent isLetter, .token name⟩ :: ⟨.subscript modality, .token mark⟩ ::
          ⟨.awaiting (.modal modality), .token op⟩ :: stack)) := by
  simp only [Configuration.step]
  split
  · rename_i begins
    have prescribed : (State.agent isLetter).action (aheadOf (some token)) =
        some (.reduce (.agent isLetter)) :=
      State.action_of_completed rfl Rule.noConfusion begins rfl
    split
    · rename_i named isNamed
      have own : Laid (.waiting op (.modal modality (some named)) :: frames)
          (⟨.awaiting (.indexed modality), .agent named⟩ :: ⟨.subscript modality, .token mark⟩ ::
            ⟨.awaiting (.modal modality), .token op⟩ :: stack) :=
        .waiting laid (Stratum.level_le_tight _) (.indexed modality mark named)
      refine agrees_reduce _ prescribed ?_ (agrees_beginOperand own rfl)
      simp [reduce, Rule.body, Rule.build, isNamed, push, top, State.goto, Rule.result]
    · rename_i unknown
      have failed : round limit (some token) (⟨.agent isLetter, .token name⟩ ::
          ⟨.subscript modality, .token mark⟩ :: ⟨.awaiting (.modal modality), .token op⟩ ::
            stack) = .settled (.failed (.unknownAgent name)) := by
        simp [round, top, prescribed, reduce, Rule.body, Rule.build, unknown]
      rw [settle_of_settled failed]
      exact .unknownAgent name
  · rename_i noOperand
    refine agrees_refuse ?_
    simp [State.action, aheadOf, top, State.shift?, State.shift, State.reduction,
      State.completed?, Rule.follows, noOperand]

/-- The engine takes a token as the configuration does, whose stack it has. -/
theorem Holds.step (holds : Holds c stack) (limit : Limit) (token : Token) :
    Agrees ShiftsTo (c.step limit token) (settle limit (some token) stack) := by
  cases holds with
  | @operand frames _ laid takesNegation =>
      refine agrees_beginOperand laid ?_
      rw [laid.top_eq]
      rcases frames with _ | ⟨_ | ⟨op, operator⟩, outer⟩
      · rfl
      · rfl
      · cases operator with
        | negation | wide | binary => rfl
        | modal | narrow => cases takesNegation
  | @modality frames stack op modality laid =>
      have own : Laid (.waiting op (.modal modality none) :: frames)
          (⟨.awaiting (.modal modality), .token op⟩ :: stack) :=
        .waiting laid (Stratum.level_le_tight _) (.modal modality)
      exact agrees_mark_or_operand own (State.shift_modal token.kind modality)
        (.subscript op token modality laid)
  | subscript op mark modality laid =>
      exact agrees_only rfl (State.shift_subscript token.kind modality)
        (.agent op mark token modality _ laid)
  | agent op mark name modality isLetter laid => exact agrees_agent isLetter laid
  | quantifier op quantifier laid =>
      exact agrees_only rfl (State.shift_quantifier token.kind quantifier)
        (.bound op token quantifier laid)
  | @bound frames stack op bound quantifier laid =>
      have own : Laid (.waiting op (.narrow quantifier bound.value) :: frames)
          (⟨.awaiting (.narrow quantifier), .token bound⟩ :: ⟨.quantifier quantifier, .token op⟩ ::
            stack) :=
        .waiting laid (Stratum.level_le_tight _) (.narrow quantifier bound)
      refine agrees_mark_or_operand own (State.shift_narrow token.kind quantifier)
        (.operand ?_ rfl)
      exact .waiting laid (Stratum.level_le_tight _) (.wide quantifier bound token)
  | name name laid =>
      have shift := State.shift_name token.kind
      simp only [Configuration.step]
      split
      · rename_i isOpening
        rw [if_pos isOpening] at shift
        exact agrees_shift _ shift (.opened name token laid)
      · rename_i noOpening
        rw [if_neg noOpening] at shift
        exact agrees_stepPhrase (completed_atom name _) shift laid
  | opened name opening laid =>
      exact agrees_only rfl (State.shift_opened token.kind) (.firstArgument name opening token laid)
  | firstArgument name opening first laid =>
      exact agrees_argument name opening laid rfl Rule.noConfusion rfl (fun _ => rfl) rfl
  | nextArgument name opening comma last first rest laid =>
      refine agrees_argument name opening laid rfl Rule.noConfusion rfl (fun _ => rfl) ?_
      rw [List.reverse_cons]
      rfl
  | separator name opening comma first rest laid =>
      exact agrees_only rfl (State.shift_comma token.kind)
        (.nextArgument name opening comma token first rest laid)
  | complete completed noShift laid => exact agrees_stepPhrase completed (noShift _) laid

/-- And so for the end. -/
theorem Holds.finish (holds : Holds c stack) (limit : Limit) :
    Agrees Accepts (c.finish limit) (settle limit none stack) := by
  cases holds with
  | name name laid => exact agrees_finishPhrase (completed_atom name _) laid
  | complete completed noShift laid => exact agrees_finishPhrase completed laid
  | @operand frames _ laid takesNegation =>
      rw [settle_refuse]
      · exact .refused _ _
      · rw [laid.top_eq]
        rcases frames with _ | ⟨_ | _, outer⟩ <;> rfl
  | _ =>
      rw [settle_refuse rfl]
      exact .refused _ _

end Tokens

/-! ### Many tokens -/

/-- A reading that goes through has a stack at each token. -/
theorem Holds.exists_readTokens? {c next : Configuration} {stack : List Cell} {limit : Limit}
    {tokens : List Token} (holds : Holds c stack) (read : c.steps limit tokens = .ok next) :
    ∃ stack', readTokens? limit stack tokens = some stack' ∧ Holds next stack' := by
  induction tokens generalizing c stack with
  | nil =>
      cases read
      exact ⟨stack, rfl, holds⟩
  | cons token rest ih =>
      obtain ⟨middle, taken, readRest⟩ := Configuration.exists_step_of_steps read
      have agrees := holds.step limit token
      rw [taken] at agrees
      cases agrees with
      | passed shifts =>
          obtain ⟨stack', shifted, holds'⟩ := shifts
          obtain ⟨last, readLast, holdsLast⟩ := ih holds' readRest
          refine ⟨last, ?_, holdsLast⟩
          rw [readTokens?, List.foldlM_cons, shifted]
          exact readLast

end ModalLanguage.Automaton
