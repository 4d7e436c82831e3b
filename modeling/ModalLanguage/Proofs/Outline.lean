/-
Module: ModalLanguage.Proofs.Outline
Purpose: A reading without names, formulas and frames. All that decides which kinds of tokens can
  follow is what was read last and, for every open bracket, how many biconditionals are still free
  inside it: the bracket itself brings one, every quantifier with a dot brings one, and a
  biconditional takes one. The outline of a configuration keeps just this. A step of the reading is
  a step of its outline (`Configuration.step_outline`), the lookaheads that a configuration admits
  are those that its outline can take (`Configuration.admits_eq_isSome_step`), and the kinds of
  every derivation run through, however its quantifiers reach (`Tree.exists_runs`).
Main exports: Outline, Outline.step, Outline.run, Outline.Accepts, Configuration.outline,
  Configuration.step_outline, Configuration.admits_eq_isSome_step, Configuration.admits_ending_iff,
  Tree.exists_runs
-/
import ModalLanguage.Proofs.Derivation

namespace ModalLanguage

/-- What was read last, without names. An operand is tight when it cannot begin with a negation. -/
inductive Outline.Stage where
  | operand (isTight : Bool)
  | modality
  | subscript
  | agent
  | quantifier
  | bound
  | name
  | arguments
  | argument
  | separator
  | complete
deriving DecidableEq

/-- The outline of a reading: what was read last, how many biconditionals are free inside the
    innermost open bracket, and how many inside each of the brackets around it. -/
structure Outline where
  stage : Outline.Stage
  free : Nat
  outer : List Nat
deriving DecidableEq

namespace Outline

/-- Before the first token one biconditional is free. -/
def start : Outline := ⟨.operand false, 1, []⟩

/-- Begin an operand. -/
def beginOperand (o : Outline) (isTight : Bool) : Kind → Option Outline
  | .letter => some { o with stage := .name }
  | .verum => some { o with stage := .complete }
  | .falsum => some { o with stage := .complete }
  | .box => some { o with stage := .modality }
  | .diamond => some { o with stage := .modality }
  | .universal => some { o with stage := .quantifier }
  | .existential => some { o with stage := .quantifier }
  | .opening => some ⟨.operand false, 1, o.free :: o.outer⟩
  | .negation => if isTight then none else some { o with stage := .operand false }
  | _ => none

/-- Take a biconditional, if one is free. -/
def takeBiconditional (o : Outline) : Option Outline :=
  match o.free with
  | 0 => none
  | free + 1 => some ⟨.operand false, free, o.outer⟩

/-- Close a bracket, if one is open. -/
def close (o : Outline) : Option Outline :=
  match o.outer with
  | [] => none
  | free :: outer => some ⟨.complete, free, outer⟩

/-- Go on behind a phrase. -/
def follow (o : Outline) : Kind → Option Outline
  | .conjunction => some { o with stage := .operand false }
  | .disjunction => some { o with stage := .operand false }
  | .implication => some { o with stage := .operand false }
  | .biconditional => o.takeBiconditional
  | .closing => o.close
  | _ => none

/-- Read a token of some kind. -/
def step (o : Outline) (kind : Kind) : Option Outline :=
  match o.stage with
  | .operand isTight => o.beginOperand isTight kind
  | .modality =>
    if kind = .underscore then some { o with stage := .subscript } else o.beginOperand true kind
  | .subscript =>
    if kind = .letter ∨ kind = .agent then some { o with stage := .agent } else none
  | .agent => o.beginOperand true kind
  | .quantifier => if kind = .letter then some { o with stage := .bound } else none
  | .bound =>
    if kind = .dot then some ⟨.operand false, o.free + 1, o.outer⟩ else o.beginOperand true kind
  | .name => if kind = .opening then some { o with stage := .arguments } else o.follow kind
  | .arguments => if kind = .letter then some { o with stage := .argument } else none
  | .argument =>
    if kind = .comma then some { o with stage := .separator }
    else if kind = .closing then some { o with stage := .complete }
    else none
  | .separator => if kind = .letter then some { o with stage := .argument } else none
  | .complete => o.follow kind

/-- Read tokens of some kinds. -/
def run (o : Outline) (kinds : List Kind) : Option Outline :=
  kinds.foldlM step o

/-- Whether a phrase is complete. -/
def IsPhrase (o : Outline) : Prop := o.stage = .name ∨ o.stage = .complete

/-- Whether the text can end here: a phrase is complete and no bracket is open. -/
def Accepts (o : Outline) : Prop := o.IsPhrase ∧ o.outer = []

@[simp] theorem run_nil (o : Outline) : o.run [] = some o := rfl

@[simp] theorem run_cons (o : Outline) (kind : Kind) (kinds : List Kind) :
    o.run (kind :: kinds) = (o.step kind).bind fun next => next.run kinds := rfl

theorem run_append (o : Outline) (first second : List Kind) :
    o.run (first ++ second) = (o.run first).bind fun next => next.run second :=
  List.foldlM_append

/-- Behind a phrase every kind but an opening bracket goes on in one way. -/
theorem IsPhrase.step {o : Outline} (phrase : o.IsPhrase) {kind : Kind} (plain : kind ≠ .opening) :
    o.step kind = o.follow kind := by
  rcases phrase with atName | atComplete
  · simp [Outline.step, atName, plain]
  · simp [Outline.step, atComplete]

end Outline

/-! ### The outline of a configuration -/

/-- The number of biconditionals that are free inside the innermost open bracket. -/
def freeSlots : List Frame → Nat
  | [] => 1
  | .bracket :: _ => 1
  | .waiting _ (.wide _ _) :: frames => freeSlots frames + 1
  | .waiting _ (.binary .biconditional _) :: frames => freeSlots frames - 1
  | .waiting _ _ :: frames => freeSlots frames

/-- The number of biconditionals that are free inside each of the brackets around it. -/
def outerSlots : List Frame → List Nat
  | [] => []
  | .bracket :: frames => freeSlots frames :: outerSlots frames
  | .waiting _ _ :: frames => outerSlots frames

/-- What was read last, without names, inside the frames. -/
def Focus.stage (frames : List Frame) : Focus → Outline.Stage
  | .operand => .operand (refusesNegation frames)
  | .modality _ _ => .modality
  | .subscript _ _ => .subscript
  | .agent _ _ _ => .agent
  | .quantifier _ _ => .quantifier
  | .bound _ _ _ => .bound
  | .name _ => .name
  | .arguments _ => .arguments
  | .argument _ _ _ => .argument
  | .separator _ _ _ => .separator
  | .complete _ => .complete

/-- The outline of a configuration. -/
def Configuration.outline (c : Configuration) : Outline :=
  ⟨c.focus.stage c.frames, freeSlots c.frames, outerSlots c.frames⟩

theorem outline_start : Configuration.start.outline = .start := rfl

/-! ### What can follow a phrase -/

/-- The number of biconditionals that are free behind a phrase; one that is a biconditional itself
    has just taken one. -/
def available (frames : List Frame) (isSealed : Bool) : Nat :=
  freeSlots frames - if isSealed then 1 else 0

/-- Only a whole body, in a bracket or behind a dot, may be a biconditional. -/
theorem Operator.eq_wide_of_level {operator : Operator} (fits : operator.operand.level ≤ 1) :
    ∃ quantifier bound, operator = .wide quantifier bound := by
  cases operator with
  | wide quantifier bound => exact ⟨quantifier, bound, rfl⟩
  | binary op left => exact absurd (op.two_le_right.trans fits) (by decide)
  | negation | modal | narrow => simp [operand, Stratum.level] at fits

/-- Where a whole body may stand a biconditional is free. -/
theorem one_le_freeSlots {frames : List Frame} (fits : (hole frames).level ≤ 1) :
    1 ≤ freeSlots frames := by
  cases frames with
  | nil => exact Nat.le_refl 1
  | cons frame frames =>
      cases frame with
      | bracket => exact Nat.le_refl 1
      | waiting token operator =>
          obtain ⟨quantifier, bound, rfl⟩ := Operator.eq_wide_of_level fits
          exact Nat.le_add_left 1 _

/-- An operator that a connective completes leaves as many biconditionals free as before. -/
theorem available_apply {op : Connective} {token : Token} {operator : Operator}
    {frames : List Frame} {isSealed : Bool} (fits : isSealed = true → operator.operand.level ≤ 1)
    (closes : operator.closedBy (.connective op) isSealed = true) :
    available (.waiting token operator :: frames) isSealed = available frames operator.seals := by
  cases isSealed with
  | true =>
      obtain ⟨quantifier, bound, rfl⟩ := Operator.eq_wide_of_level (fits rfl)
      rfl
  | false =>
      cases operator with
      | wide quantifier bound => cases op <;> cases closes
      | binary first left => cases first <;> rfl
      | negation | modal | narrow => rfl

/-- Only a biconditional completes a biconditional, and only it completes what stands behind one. -/
theorem unsealed_of_closedBy {op : Connective} {operator : Operator} {isSealed : Bool}
    (fits : isSealed = true → operator.operand.level ≤ 1)
    (closes : operator.closedBy (.connective op) isSealed = true) (other : op ≠ .biconditional) :
    isSealed = false ∧ operator.seals = false := by
  constructor
  · cases isSealed with
    | true =>
        obtain ⟨quantifier, bound, rfl⟩ := Operator.eq_wide_of_level (fits rfl)
        cases op <;> simp_all [Operator.closedBy]
    | false => rfl
  · cases operator with
    | binary first left =>
        cases first <;> cases op <;> simp_all [Operator.closedBy, Operator.seals,
          Connective.closedBy, Connective.rank]
    | negation | modal | narrow | wide => rfl

/-- A phrase that an operator completes by a biconditional fits where a whole body stands. -/
theorem Operator.stratum_le_one {operator : Operator} (seals : operator.seals = true) :
    operator.stratum.level ≤ 1 := by
  cases operator with
  | binary op left => cases op <;> first | exact Nat.le_refl 1 | cases seals
  | negation | modal | narrow | wide => cases seals

/-- Whether a connective can follow a phrase: a biconditional where one is free, every other one
    behind all but a biconditional. -/
theorem canFollow_connective {op : Connective} {frames : List Frame} {isSealed : Bool}
    (nested : Nested frames) (fits : isSealed = true → (hole frames).level ≤ 1) :
    canFollow (.connective op) frames isSealed =
      if op = .biconditional then decide (0 < available frames isSealed) else !isSealed := by
  induction frames generalizing isSealed with
  | nil => cases isSealed <;> cases op <;> rfl
  | cons frame frames ih =>
      cases frame with
      | bracket => cases isSealed <;> cases op <;> rfl
      | waiting token operator =>
          obtain ⟨fitsOuter, nestedOuter⟩ := nested
          by_cases closes : operator.closedBy (.connective op) isSealed = true
          · have fitsApplied (seals : operator.seals = true) : (hole frames).level ≤ 1 :=
              fitsOuter.trans (Operator.stratum_le_one seals)
            rw [canFollow, if_pos closes, ih nestedOuter fitsApplied, available_apply fits closes]
            by_cases both : op = .biconditional
            · simp [both]
            · obtain ⟨unsealed, unsealed'⟩ := unsealed_of_closedBy fits closes both
              simp [both, unsealed, unsealed']
          · rw [canFollow, if_neg closes]
            by_cases both : op = .biconditional
            · -- Nothing but an unsealed whole body lets a biconditional in.
              subst both
              cases isSealed with
              | true =>
                  obtain ⟨quantifier, bound, rfl⟩ := Operator.eq_wide_of_level (fits rfl)
                  exact absurd rfl closes
              | false =>
                  rw [operator.closedBy_connective] at closes
                  obtain ⟨quantifier, bound, rfl⟩ :=
                    Operator.eq_wide_of_level (Nat.not_lt.1 closes)
                  simp [available, freeSlots]
            · simp [both]

/-- A closing bracket can follow a phrase where a bracket is open. -/
theorem canFollow_closing (frames : List Frame) (isSealed : Bool) :
    canFollow .closing frames isSealed = !(outerSlots frames).isEmpty := by
  induction frames generalizing isSealed with
  | nil => rfl
  | cons frame frames ih =>
      cases frame with
      | bracket => rfl
      | waiting token operator =>
          rw [canFollow, if_pos (operator.closedBy_closing isSealed), ih]
          rfl

/-- The text can end behind a phrase where no bracket is open. -/
theorem canFollow_ending (frames : List Frame) (isSealed : Bool) :
    canFollow .ending frames isSealed = (outerSlots frames).isEmpty := by
  induction frames generalizing isSealed with
  | nil => rfl
  | cons frame frames ih =>
      cases frame with
      | bracket => rfl
      | waiting token operator =>
          rw [canFollow, if_pos (operator.closedBy_ending isSealed), ih]
          rfl

/-! ### What a configuration admits -/

theorem Outline.isSome_beginOperand (o : Outline) (isTight : Bool) (kind : Kind) :
    (o.beginOperand isTight kind).isSome = (kind.beginsTight || kind == .negation && !isTight) := by
  cases kind <;> cases isTight <;> rfl

theorem Outline.isSome_takeBiconditional (o : Outline) :
    o.takeBiconditional.isSome = decide (0 < o.free) := by
  unfold takeBiconditional
  split <;> simp_all

theorem Outline.isSome_close (o : Outline) : o.close.isSome = !o.outer.isEmpty := by
  unfold close
  split <;> simp_all

theorem canFollowPhrase_eq_isSome_follow {c : Configuration} (nested : Nested c.frames)
    (kind : Kind) :
    canFollowPhrase (.token kind) c.frames = (c.outline.follow kind).isSome := by
  have unsealed : false = true → (hole c.frames).level ≤ 1 :=
    fun isTrue => absurd isTrue Bool.false_ne_true
  have behind (op : Connective) :
      canFollow (.connective op) c.frames false =
        if op = .biconditional then decide (0 < available c.frames false) else true :=
    canFollow_connective nested unsealed
  cases kind with
  | biconditional =>
      rw [Outline.follow, Outline.isSome_takeBiconditional]
      exact behind .biconditional
  | closing =>
      rw [Outline.follow, Outline.isSome_close]
      exact canFollow_closing c.frames false
  | conjunction => exact behind .conjunction
  | disjunction => exact behind .disjunction
  | implication => exact behind .implication
  | _ => rfl

/-- A configuration admits the kinds that its outline can take. -/
theorem Configuration.admits_eq_isSome_step {c : Configuration} (nested : Nested c.frames)
    (kind : Kind) : c.admits (.token kind) = (c.outline.step kind).isSome := by
  have behind := canFollowPhrase_eq_isSome_follow nested kind
  have begun := Outline.isSome_beginOperand c.outline true kind
  obtain ⟨frames, focus⟩ := c
  cases focus with
  | operand => exact (Outline.isSome_beginOperand _ _ kind).symm
  | agent => simpa [admits, Outline.step, outline, Focus.stage] using begun.symm
  | modality =>
      by_cases isMark : kind = .underscore
      · simp [admits, Outline.step, outline, Focus.stage, isMark]
      · have noMark : (kind == .underscore) = false := beq_eq_false_iff_ne.2 isMark
        simpa [admits, Outline.step, outline, Focus.stage, isMark, noMark] using begun.symm
  | bound =>
      by_cases isDot : kind = .dot
      · simp [admits, Outline.step, outline, Focus.stage, isDot]
      · have noDot : (kind == .dot) = false := beq_eq_false_iff_ne.2 isDot
        simpa [admits, Outline.step, outline, Focus.stage, isDot, noDot] using begun.symm
  | subscript | quantifier | «arguments» | argument | separator => cases kind <;> rfl
  | name =>
      by_cases isOpening : kind = .opening
      · simp [admits, Outline.step, outline, Focus.stage, isOpening]
      · have noOpening : (Lookahead.token kind == .token .opening) = false :=
          beq_eq_false_iff_ne.2 (by simpa using isOpening)
        simpa [admits, Outline.step, outline, Focus.stage, isOpening, noOpening] using behind
  | complete => exact behind

/-- A configuration admits the end where its outline accepts. -/
theorem Configuration.admits_ending_iff (c : Configuration) :
    c.admits .ending = true ↔ c.outline.Accepts := by
  rw [admits_ending, canFollow_ending]
  obtain ⟨frames, focus⟩ := c
  cases focus <;>
    simp [phrase?, Outline.Accepts, Outline.IsPhrase, Configuration.outline, Focus.stage]

/-! ### A step of the reading is a step of its outline -/

theorem outerSlots_of_closeFrames {limit : Limit} {next : Follower} {frames : List Frame}
    {f : Formula} {isSealed : Bool} {phrase : Phrase}
    (closed : closeFrames limit next frames f isSealed = .ok phrase) :
    outerSlots phrase.frames = outerSlots frames := by
  fun_induction closeFrames limit next frames f isSealed with
  | case1 token operator frames f isSealed closes allowed ih => exact ih closed
  | case2 => cases closed
  | case3 | case4 =>
      cases closed
      rfl

/-- Whatever a connective completes, as many biconditionals are free as before. -/
theorem available_of_closeFrames {limit : Limit} {op : Connective} {frames : List Frame}
    {f : Formula} {isSealed : Bool} {phrase : Phrase} (nested : Nested frames)
    (fits : isSealed = true → (hole frames).level ≤ 1)
    (closed : closeFrames limit (.connective op) frames f isSealed = .ok phrase) :
    available phrase.frames phrase.isSealed = available frames isSealed := by
  fun_induction closeFrames limit (.connective op) frames f isSealed with
  | case1 token operator frames f isSealed closes allowed ih =>
      have fitsApplied (seals : operator.seals = true) : (hole frames).level ≤ 1 :=
        nested.1.trans (Operator.stratum_le_one seals)
      rw [ih nested.2 fitsApplied closed, available_apply fits closes]
  | case2 => cases closed
  | case3 | case4 =>
      cases closed
      rfl

theorem outline_beginOperand {frames : List Frame} {token : Token} {next : Configuration}
    (begun : beginOperand frames token = some next) (stage : Outline.Stage) :
    Outline.beginOperand ⟨stage, freeSlots frames, outerSlots frames⟩ (refusesNegation frames)
      token.kind = some next.outline := by
  unfold beginOperand at begun
  split at begun
  case h_9 isNegation =>
    split at begun
    · cases begun
    · rename_i accepts
      cases begun
      rw [isNegation]
      exact if_neg accepts
  all_goals
    rename_i isKind
    cases begun
  all_goals
    rw [isKind]
    rfl

/-- The token behind a phrase is taken by the outline too. -/
theorem outline_stepPhrase {limit : Limit} {c next : Configuration} {phrase : Formula}
    {token : Token} (nested : Nested c.frames)
    (taken : c.stepPhrase limit phrase token = .ok next) :
    c.outline.follow token.kind = some next.outline := by
  unfold Configuration.stepPhrase at taken
  split at taken
  · cases taken
  rename_i follower follows
  split at taken
  · cases taken
  rename_i closed closes
  replace taken := Configuration.orRefuse_ok taken
  have ahead := Lookahead.follower?_eq_some_iff.1 follows
  have outer := outerSlots_of_closeFrames closes
  cases follower with
  | connective op =>
      have isOp : token.kind = op.kind := by simpa [Follower.ahead] using ahead
      cases isSealed : closed.isSealed with
      | true => simp [takeFollower, isSealed] at taken
      | false =>
          have unsealed : false = true → (hole c.frames).level ≤ 1 :=
            fun isTrue => absurd isTrue Bool.false_ne_true
          have slots := available_of_closeFrames nested unsealed closes
          have fits := closeFrames_fits closes isSealed
          simp only [available, isSealed, Bool.false_eq_true, if_false, Nat.sub_zero] at slots
          simp only [takeFollower, isSealed, Bool.false_eq_true, if_false,
            Option.some.injEq] at taken
          subst taken
          rw [isOp]
          cases op with
          | biconditional =>
              obtain ⟨free, free_eq⟩ := Nat.exists_eq_add_of_le' (one_le_freeSlots fits)
              simp [Connective.kind, Outline.follow, Outline.takeBiconditional,
                Configuration.outline, Focus.stage, refusesNegation, Operator.isTight, freeSlots,
                outerSlots, ← slots, ← outer, free_eq]
          | conjunction | disjunction | implication =>
              simp [Connective.kind, Outline.follow, Configuration.outline, Focus.stage,
                refusesNegation, Operator.isTight, freeSlots, outerSlots, slots, outer]
  | closing =>
      have isClosing : token.kind = .closing := by simpa [Follower.ahead] using ahead
      obtain ⟨frames, formula, isSealed⟩ := closed
      cases frames with
      | nil => cases taken
      | cons frame frames =>
          cases frame with
          | bracket =>
              cases taken
              simp [isClosing, Outline.follow, Outline.close, Configuration.outline, ← outer,
                outerSlots, Focus.stage]
          | waiting => cases taken
  | ending => cases ahead

theorem Configuration.step_outline {limit : Limit} {c next : Configuration} {token : Token}
    (nested : Nested c.frames) (taken : c.step limit token = .ok next) :
    c.outline.step token.kind = some next.outline := by
  obtain ⟨frames, focus⟩ := c
  cases focus with
  | operand => exact outline_beginOperand (orRefuse_ok taken) _
  | modality op modality =>
      simp only [step] at taken
      split at taken
      · rename_i isMark
        cases taken
        exact if_pos isMark
      · rename_i noMark
        exact (if_neg noMark).trans (outline_beginOperand (orRefuse_ok taken) _)
  | subscript | quantifier | «arguments» | separator =>
      simp only [step] at taken
      split at taken
      · rename_i isName
        cases taken
        exact if_pos isName
      · cases taken
  | agent op modality name =>
      simp only [step] at taken
      split at taken
      · split at taken
        · exact outline_beginOperand (orRefuse_ok taken) _
        · cases taken
      · cases taken
  | bound op quantifier name =>
      simp only [step] at taken
      split at taken
      · rename_i isDot
        cases taken
        exact if_pos isDot
      · rename_i noDot
        exact (if_neg noDot).trans (outline_beginOperand (orRefuse_ok taken) _)
  | name name =>
      simp only [step] at taken
      split at taken
      · rename_i isOpening
        cases taken
        exact if_pos isOpening
      · rename_i noOpening
        exact (if_neg noOpening).trans (outline_stepPhrase nested taken)
  | argument predicate first rest =>
      simp only [step] at taken
      split at taken
      · rename_i isComma
        cases taken
        exact if_pos isComma
      · rename_i noComma
        split at taken
        · rename_i isClosing
          cases taken
          exact (if_neg noComma).trans (if_pos isClosing)
        · cases taken
  | complete phrase => exact outline_stepPhrase nested taken

/-! ### A derivation runs through -/

/-- The number of biconditionals that a tree takes from those that are free around it. -/
def Tree.taken {s : Stratum} (t : Tree s) : Nat :=
  if t.isBiconditional then 1 else 0

theorem Tree.taken_eq_zero {s : Stratum} {t : Tree s} (single : t.isBiconditional = false) :
    t.taken = 0 := by
  rw [taken, single]
  rfl

/-- A tree of some stratum can begin here. -/
structure Outline.Wants {s : Stratum} (o : Outline) (t : Tree s) : Prop where
  stage : o.stage = .operand false ∨ o.stage = .operand true ∧ s = .tight
  room : t.isBiconditional = true → 1 ≤ o.free

/-- The kinds of a tree lead from an outline to another one, with a phrase complete and the same
    brackets open. Quantifiers that close before they have to can only leave more biconditionals
    free; in front of a connective none of those in a widest tree has closed too early. -/
structure Outline.Runs {s : Stratum} (o : Outline) (t : Tree s) (last : Outline) : Prop where
  run : o.run (t.tokens.map Token.kind) = some last
  phrase : last.IsPhrase
  outer : last.outer = o.outer
  free : o.free ≤ last.free + t.taken
  exactly : ∀ op : Connective, t.Widest (.token op.kind) → o.free = last.free + t.taken

namespace Outline

theorem Wants.loose {s : Stratum} {o : Outline} {t : Tree s} (wants : o.Wants t)
    (looser : s ≠ .tight) : o.stage = .operand false :=
  wants.stage.resolve_right fun tight => looser tight.2

/-- A tree that is no biconditional can begin wherever its stratum can. -/
theorem wants_of_level {s : Stratum} {o : Outline} {t : Tree s} (stage : o.stage = .operand false)
    (tighter : 2 ≤ s.level) : o.Wants t :=
  ⟨.inl stage, fun both => by simp [t.isBiconditional_eq_false tighter] at both⟩

theorem wants_tight {o : Outline} {t : Tree .tight} (stage : o.stage = .operand true) :
    o.Wants t :=
  ⟨.inr ⟨stage, rfl⟩, fun both => by simp [t.isBiconditional_eq_false (by decide)] at both⟩

/-- The operand of a modal operator or a quantifier without a dot is read in the same way behind the
    operator, behind an agent and behind a name. -/
theorem run_tight (t : Tree .tight) {stage : Stage} (free : Nat) (outer : List Nat)
    (inside : stage = .modality ∨ stage = .agent ∨ stage = .bound) :
    (⟨stage, free, outer⟩ : Outline).run (t.tokens.map Token.kind) =
      (⟨.operand true, free, outer⟩ : Outline).run (t.tokens.map Token.kind) := by
  obtain ⟨token, rest, tokens_eq, begins⟩ := t.exists_tokens_eq_cons
  have first : (⟨stage, free, outer⟩ : Outline).step token.kind =
      (⟨.operand true, free, outer⟩ : Outline).step token.kind := by
    rcases inside with rfl | rfl | rfl
    · exact if_neg (Kind.ne_underscore_of_beginsTight begins)
    · rfl
    · exact if_neg (Kind.ne_dot_of_beginsTight begins)
  rw [tokens_eq, List.map_cons, run_cons, run_cons, first]

/-- Behind an argument any number of arguments can follow. -/
theorem run_pairTokens {pairs : List (Token × Token)} (arePairs : ArePairs pairs) {o : Outline}
    (stage : o.stage = .argument) : o.run ((pairTokens pairs).map Token.kind) = some o := by
  induction pairs with
  | nil => rfl
  | cons pair pairs ih =>
      obtain ⟨isPair, areRest⟩ := List.forall_mem_cons.1 arePairs
      obtain ⟨stage', free, outer⟩ := o
      cases stage
      have rest := ih areRest
      simp only [pairTokens, List.flatMap_cons, List.cons_append, List.nil_append, List.map_cons,
        isPair.1, isPair.2, run_cons]
      exact rest

/-- Two trees that cannot be told apart run in the same way. -/
theorem Runs.of_alike {s s' : Stratum} {t : Tree s} {t' : Tree s'} {o last : Outline}
    (runs : o.Runs t last) (alike : Tree.Alike t t') : o.Runs t' last where
  run := by rw [alike.tokens]; exact runs.run
  phrase := runs.phrase
  outer := runs.outer
  free := by rw [Tree.taken, alike.isBiconditional]; exact runs.free
  exactly op widest := by
    rw [Tree.taken, alike.isBiconditional]
    exact runs.exactly op ((alike.widest _).1 widest)

/-- Where an operand is to begin, a negation is all that a tight one refuses. -/
theorem Wants.step {s : Stratum} {o : Outline} {t : Tree s} (wants : o.Wants t) {kind : Kind}
    (plain : kind ≠ .negation) : o.step kind = o.beginOperand true kind := by
  have begun (isTight : Bool) : o.beginOperand isTight kind = o.beginOperand true kind := by
    cases kind <;> first | rfl | exact absurd rfl plain
  rcases wants.stage with stage | ⟨stage, -⟩
  · rw [Outline.step, stage]
    exact begun false
  · rw [Outline.step, stage]

theorem Wants.step_modality {s : Stratum} {o : Outline} {t : Tree s} (wants : o.Wants t)
    (modality : Modality) : o.step modality.kind = some ⟨.modality, o.free, o.outer⟩ := by
  rw [wants.step (by cases modality <;> decide)]
  cases modality <;> rfl

theorem Wants.step_quantifier {s : Stratum} {o : Outline} {t : Tree s} (wants : o.Wants t)
    (quantifier : Quantifier) : o.step quantifier.kind = some ⟨.quantifier, o.free, o.outer⟩ := by
  rw [wants.step (by cases quantifier <;> decide)]
  cases quantifier <;> rfl

theorem Wants.step_letter {s : Stratum} {o : Outline} {t : Tree s} (wants : o.Wants t) :
    o.step .letter = some ⟨.name, o.free, o.outer⟩ := by
  rw [wants.step (by decide)]
  rfl

/-- What is written in front of an operand, and takes no biconditional, leads to the operand. -/
theorem Runs.behind {s s' : Stratum} {t : Tree s} {operand : Tree s'} {o last : Outline}
    {stage : Stage} (front : List Token) (tokens_eq : t.tokens = front ++ operand.tokens)
    (begins : o.run (front.map Token.kind) = some ⟨stage, o.free, o.outer⟩)
    (runs : Runs ⟨stage, o.free, o.outer⟩ operand last)
    (single : t.isBiconditional = operand.isBiconditional)
    (widest : ∀ ahead, t.Widest ahead → operand.Widest ahead) : o.Runs t last where
  run := by rw [tokens_eq, List.map_append, run_append, begins, Option.bind_some, runs.run]
  phrase := runs.phrase
  outer := runs.outer
  free := by rw [Tree.taken, single]; exact runs.free
  exactly op widest' := by
    rw [Tree.taken, single]
    exact runs.exactly op (widest _ widest')

/-- The operand of a modal operator or of a quantifier without a dot. -/
theorem Runs.tight {t : Tree .tight} {stage : Stage} {free : Nat} {outer : List Nat}
    {last : Outline} (runs : Runs ⟨.operand true, free, outer⟩ t last)
    (inside : stage = .modality ∨ stage = .agent ∨ stage = .bound) :
    Runs ⟨stage, free, outer⟩ t last :=
  ⟨(run_tight t free outer inside).trans runs.run, runs.phrase, runs.outer, runs.free,
    runs.exactly⟩

/-- Tokens that are a phrase by themselves. -/
theorem runs_closed {t : Tree .tight} {o : Outline} {stage : Stage}
    (run : o.run (t.tokens.map Token.kind) = some ⟨stage, o.free, o.outer⟩)
    (phrase : stage = .name ∨ stage = .complete) : o.Runs t ⟨stage, o.free, o.outer⟩ where
  run := run
  phrase := phrase
  outer := rfl
  free := Nat.le_add_right _ _
  exactly op widest := by rw [Tree.taken_eq_zero (t.isBiconditional_eq_false (by decide))]; rfl

/-- A name with its arguments. -/
theorem runs_predicate (name : Token) (isName : name.kind = .letter) (opening : Token)
    (isOpening : opening.kind = .opening) (first : Token) (isFirst : first.kind = .letter)
    (pairs : List (Token × Token)) (arePairs : ArePairs pairs) (closing : Token)
    (isClosing : closing.kind = .closing) {o : Outline}
    (wants : o.Wants (Tree.predicate name isName opening isOpening first isFirst pairs arePairs
      closing isClosing)) :
    o.Runs (Tree.predicate name isName opening isOpening first isFirst pairs arePairs closing
      isClosing) ⟨.complete, o.free, o.outer⟩ := by
  have begins : o.step name.kind = some ⟨.name, o.free, o.outer⟩ := by
    rw [isName, wants.step_letter]
  have opened : (⟨.name, o.free, o.outer⟩ : Outline).step opening.kind =
      some ⟨.arguments, o.free, o.outer⟩ := if_pos isOpening
  have named : (⟨.arguments, o.free, o.outer⟩ : Outline).step first.kind =
      some ⟨.argument, o.free, o.outer⟩ := if_pos isFirst
  have more : (⟨.argument, o.free, o.outer⟩ : Outline).run ((pairTokens pairs).map Token.kind) =
      some ⟨.argument, o.free, o.outer⟩ := run_pairTokens arePairs rfl
  have closed : (⟨.argument, o.free, o.outer⟩ : Outline).step closing.kind =
      some ⟨.complete, o.free, o.outer⟩ := by
    rw [isClosing]
    rfl
  refine runs_closed ?_ (.inr rfl)
  change o.run ((name :: opening :: first :: (pairTokens pairs ++ [closing])).map Token.kind) = _
  simp [begins, opened, named, run_append, more, closed]

/-- A formula in brackets: what is free around them comes back behind them. -/
theorem runs_bracketed (opening : Token) (isOpening : opening.kind = .opening)
    (body : Tree .formula) (closing : Token) (isClosing : closing.kind = .closing)
    {o last : Outline}
    (wants : o.Wants (Tree.bracketed opening isOpening body closing isClosing))
    (runs : Runs ⟨.operand false, 1, o.free :: o.outer⟩ body last) :
    o.Runs (Tree.bracketed opening isOpening body closing isClosing)
      ⟨.complete, o.free, o.outer⟩ := by
  have begins : o.step opening.kind = some ⟨.operand false, 1, o.free :: o.outer⟩ := by
    rw [isOpening, wants.step (by decide)]
    rfl
  have closed : last.step closing.kind = some ⟨.complete, o.free, o.outer⟩ := by
    have plain : closing.kind ≠ .opening := by simp [isClosing]
    rw [runs.phrase.step plain, isClosing, follow, close, runs.outer]
  refine runs_closed ?_ (.inr rfl)
  simp [Tree.tokens, begins, run_append, runs.run, closed]

/-- A quantifier with a dot, which brings a biconditional of its own for the body to take. -/
theorem runs_wide (quantifier : Quantifier) (op : Token) (isOp : op.kind = quantifier.kind)
    (bound : Token) (isBound : bound.kind = .letter) (dot : Token) (isDot : dot.kind = .dot)
    {body : Tree .formula} {o last : Outline}
    (wants : o.Wants (Tree.wide quantifier op isOp bound isBound dot isDot body))
    (runs : Runs ⟨.operand false, o.free + 1, o.outer⟩ body last) :
    o.Runs (Tree.wide quantifier op isOp bound isBound dot isDot body) last := by
  have begins : o.step op.kind = some ⟨.quantifier, o.free, o.outer⟩ := by
    rw [isOp, wants.step_quantifier]
  have named : (⟨.quantifier, o.free, o.outer⟩ : Outline).step bound.kind =
      some ⟨.bound, o.free, o.outer⟩ := if_pos isBound
  have dotted : (⟨.bound, o.free, o.outer⟩ : Outline).step dot.kind =
      some ⟨.operand false, o.free + 1, o.outer⟩ := if_pos isDot
  have atMostOne : body.taken ≤ 1 := by
    unfold Tree.taken
    split <;> decide
  have free := runs.free
  refine ⟨?_, runs.phrase, runs.outer, ?_, ?_⟩
  · simp [Tree.tokens, begins, named, dotted, runs.run]
  · rw [Tree.taken_eq_zero rfl]
    exact Nat.le_of_succ_le_succ (free.trans (Nat.add_le_add_left atMostOne _))
  · rintro next ⟨closes, widest⟩
    -- The body is a biconditional, so it has taken the one that its own dot brought.
    have exactly := runs.exactly next widest
    have both : body.isBiconditional = true := by
      rcases closes with ending | closing | ⟨-, both⟩
      · cases ending
      · cases next <;> cases closing
      · exact both
    rw [Tree.taken, both] at exactly
    exact Nat.succ.inj exactly

/-- A connective between two operands. -/
theorem exists_runs_binary (op : Connective) (left : Tree op.left) (token : Token)
    (isOp : token.kind = op.kind) (right : Tree op.right) {o : Outline}
    (wants : o.Wants (Tree.binary op left token isOp right))
    (ihLeft : ∀ {o : Outline}, o.Wants left → ∃ last, o.Runs left last)
    (ihRight : ∀ {o : Outline}, o.Wants right → ∃ last, o.Runs right last) :
    ∃ last, o.Runs (Tree.binary op left token isOp right) last := by
  have stage : o.stage = .operand false := wants.loose (by cases op <;> decide)
  obtain ⟨middle, runsLeft⟩ := ihLeft (wants_of_level stage op.two_le_left)
  have singleLeft := Tree.taken_eq_zero (left.isBiconditional_eq_false op.two_le_left)
  have singleRight := Tree.taken_eq_zero (right.isBiconditional_eq_false op.two_le_right)
  have taken : (Tree.binary op left token isOp right).taken =
      if op = .biconditional then 1 else 0 := by
    simp [Tree.taken]
  have room : op = .biconditional → 1 ≤ o.free := by
    rintro rfl
    exact wants.room rfl
  have freeLeft := runsLeft.free
  have exactLeft := runsLeft.exactly
  simp only [singleLeft, Nat.add_zero] at freeLeft exactLeft
  -- The connective takes a biconditional if it is one, and nothing else changes.
  have behind : middle.step token.kind =
      some ⟨.operand false, middle.free - (Tree.binary op left token isOp right).taken,
        middle.outer⟩ := by
    have plain : token.kind ≠ .opening := by rw [isOp]; cases op <;> decide
    rw [runsLeft.phrase.step plain, isOp, taken]
    cases op with
    | biconditional =>
        obtain ⟨free, free_eq⟩ := Nat.exists_eq_add_of_le' ((room rfl).trans freeLeft)
        simp [Connective.kind, follow, takeBiconditional, free_eq]
    | conjunction | disjunction | implication => rfl
  have wantsRight : Outline.Wants ⟨.operand false,
      middle.free - (Tree.binary op left token isOp right).taken, middle.outer⟩ right :=
    wants_of_level rfl op.two_le_right
  obtain ⟨last, runsRight⟩ := ihRight wantsRight
  have freeRight := runsRight.free
  have exactRight := runsRight.exactly
  simp only [singleRight, Nat.add_zero] at freeRight exactRight
  have enough : (Tree.binary op left token isOp right).taken ≤ middle.free := by
    rw [taken]
    split
    · exact (room ‹_›).trans freeLeft
    · exact Nat.zero_le _
  refine ⟨last, ?_, runsRight.phrase, runsRight.outer.trans runsLeft.outer, by omega, ?_⟩
  · rw [Tree.tokens_binary, List.map_append, List.map_cons, run_append, runsLeft.run,
      Option.bind_some, run_cons, behind, Option.bind_some, runsRight.run]
  · intro next widest
    obtain ⟨widestLeft, widestRight⟩ := (Tree.widest_binary op left token isOp right _).1 widest
    rw [isOp] at widestLeft
    have left_eq := exactLeft op widestLeft
    have right_eq := exactRight next widestRight
    omega

end Outline

/-- The kinds of every derivation run through the outline. -/
theorem Tree.exists_runs {s : Stratum} (t : Tree s) {o : Outline} (wants : o.Wants t) :
    ∃ last, o.Runs t last := by
  induction t generalizing o with
  | whole body ih =>
      obtain ⟨last, runs⟩ := ih ⟨.inl (wants.loose (by decide)), wants.room⟩
      exact ⟨last, runs.run, runs.phrase, runs.outer, runs.free, runs.exactly⟩
  | ofImplication body ih | ofDisjunction body ih | ofConjunction body ih | ofUnary body ih
  | ofTight body ih =>
      have single := body.isBiconditional_eq_false (by decide)
      obtain ⟨last, runs⟩ := ih (Outline.wants_of_level (wants.loose (by decide)) (by decide))
      exact ⟨last, runs.of_alike ⟨rfl, rfl, rfl, single.symm, fun _ => Iff.rfl⟩⟩
  | biconditional left op isOp right ihLeft ihRight =>
      exact Outline.exists_runs_binary .biconditional left op isOp right wants ihLeft ihRight
  | implication left op isOp right ihLeft ihRight =>
      exact Outline.exists_runs_binary .implication left op isOp right wants ihLeft ihRight
  | disjunction left op isOp right ihLeft ihRight =>
      exact Outline.exists_runs_binary .disjunction left op isOp right wants ihLeft ihRight
  | conjunction left op isOp right ihLeft ihRight =>
      exact Outline.exists_runs_binary .conjunction left op isOp right wants ihLeft ihRight
  | negation op isOp operand ih =>
      have stage := wants.loose (by decide)
      have operandWants : Outline.Wants ⟨.operand false, o.free, o.outer⟩ operand :=
        Outline.wants_of_level rfl (by decide)
      have begins : o.step op.kind = some ⟨.operand false, o.free, o.outer⟩ := by
        rw [isOp, Outline.step, stage]
        rfl
      obtain ⟨last, runs⟩ := ih operandWants
      have single := operand.isBiconditional_eq_false (by decide)
      exact ⟨last, Outline.Runs.behind [op] rfl (by simp [begins]) runs single.symm
        fun _ => id⟩
  | modal modality op isOp operand ih =>
      have operandWants : Outline.Wants ⟨.operand true, o.free, o.outer⟩ operand :=
        Outline.wants_tight rfl
      have begins : o.step op.kind = some ⟨.modality, o.free, o.outer⟩ := by
        rw [isOp, wants.step_modality]
      obtain ⟨last, runs⟩ := ih operandWants
      have single := operand.isBiconditional_eq_false (by decide)
      exact ⟨last, Outline.Runs.behind [op] rfl (by simp [begins])
        (runs.tight (.inl rfl)) single.symm fun _ => id⟩
  | indexed modality op isOp mark isMark agent isAgent operand ih =>
      have operandWants : Outline.Wants ⟨.operand true, o.free, o.outer⟩ operand :=
        Outline.wants_tight rfl
      have begins : o.step op.kind = some ⟨.modality, o.free, o.outer⟩ := by
        rw [isOp, wants.step_modality]
      have marked : (⟨.modality, o.free, o.outer⟩ : Outline).step mark.kind =
          some ⟨.subscript, o.free, o.outer⟩ := if_pos isMark
      have named : (⟨.subscript, o.free, o.outer⟩ : Outline).step agent.kind =
          some ⟨.agent, o.free, o.outer⟩ := if_pos isAgent
      obtain ⟨last, runs⟩ := ih operandWants
      have single := operand.isBiconditional_eq_false (by decide)
      exact ⟨last, Outline.Runs.behind [op, mark, agent] rfl
        (by simp [begins, marked, named]) (runs.tight (.inr (.inl rfl))) single.symm fun _ => id⟩
  | wide quantifier op isOp bound isBound dot isDot body ih =>
      have bodyWants : Outline.Wants ⟨.operand false, o.free + 1, o.outer⟩ body :=
        ⟨.inl rfl, fun _ => Nat.le_add_left 1 _⟩
      obtain ⟨last, runs⟩ := ih bodyWants
      exact ⟨last, Outline.runs_wide quantifier op isOp bound isBound dot isDot wants runs⟩
  | narrow quantifier op isOp bound isBound body ih =>
      have bodyWants : Outline.Wants ⟨.operand true, o.free, o.outer⟩ body :=
        Outline.wants_tight rfl
      have begins : o.step op.kind = some ⟨.quantifier, o.free, o.outer⟩ := by
        rw [isOp, wants.step_quantifier]
      have named : (⟨.quantifier, o.free, o.outer⟩ : Outline).step bound.kind =
          some ⟨.bound, o.free, o.outer⟩ := if_pos isBound
      obtain ⟨last, runs⟩ := ih bodyWants
      have single := body.isBiconditional_eq_false (by decide)
      exact ⟨last, Outline.Runs.behind [op, bound] rfl (by simp [begins, named])
        (runs.tight (.inr (.inr rfl))) single.symm fun _ => id⟩
  | predicate name isName opening isOpening first isFirst pairs arePairs closing isClosing =>
      exact ⟨_, Outline.runs_predicate name isName opening isOpening first isFirst pairs arePairs
        closing isClosing wants⟩
  | atom name isName =>
      have begins : o.step name.kind = some ⟨.name, o.free, o.outer⟩ := by
        rw [isName, wants.step_letter]
      exact ⟨_, Outline.runs_closed (by simp [Tree.tokens, begins]) (.inl rfl)⟩
  | constant value token isValue =>
      have begins : o.step token.kind = some ⟨.complete, o.free, o.outer⟩ := by
        rw [isValue, wants.step (by cases value <;> decide)]
        cases value <;> rfl
      exact ⟨_, Outline.runs_closed (by simp [Tree.tokens, begins]) (.inr rfl)⟩
  | bracketed opening isOpening body closing isClosing ih =>
      have bodyWants : Outline.Wants ⟨.operand false, 1, o.free :: o.outer⟩ body :=
        ⟨.inl rfl, fun _ => Nat.le_refl 1⟩
      obtain ⟨last, runs⟩ := ih bodyWants
      exact ⟨_, Outline.runs_bracketed opening isOpening body closing isClosing wants runs⟩

end ModalLanguage
