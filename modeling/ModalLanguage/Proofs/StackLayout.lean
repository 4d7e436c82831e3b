/-
Module: ModalLanguage.Proofs.StackLayout
Purpose: The open frames of a configuration laid out on the stack of the automaton (`Laid`): an
  operator that waits is the cells of its tokens, and a left operand stands in the state of its
  stratum. Before a follower the engine loosens the phrase on top stratum by stratum
  (`settle_climb`), and where a reading completes an operator, the engine reduces by the operator's
  rule (`settle_apply`).
Main exports: Operator.slot, entry, Written, Laid, phraseOn, settle_climb, settle_apply, Faces,
  settle_closeFrames_error, exists_settle_closeFrames
-/
import ModalLanguage.Automaton.Engine
import ModalLanguage.Proofs.Reading

namespace ModalLanguage

open Automaton

namespace Operator

/-- The place at which the last operand of an operator is to come. -/
def slot : Operator → Slot
  | negation => .negation
  | modal op none => .modal op
  | modal op (some _) => .indexed op
  | narrow op _ => .narrow op
  | wide op _ => .wide op
  | binary op _ => .right op

/-- The rule by which an operator makes a phrase of its operands. -/
def rule : Operator → Rule
  | negation => .negation
  | modal op none => .modal op
  | modal op (some _) => .indexed op
  | narrow op _ => .narrow op
  | wide op _ => .wide op
  | binary op _ => .binary op

@[simp] theorem rule?_slot (operator : Operator) : operator.slot.rule? = some operator.rule := by
  rcases operator with _ | ⟨op, _ | named⟩ | ⟨op, bound⟩ | ⟨op, bound⟩ | ⟨op, left⟩ <;> rfl

@[simp] theorem wants_slot (operator : Operator) : operator.slot.wants = operator.operand := by
  rcases operator with _ | ⟨op, _ | named⟩ | ⟨op, bound⟩ | ⟨op, bound⟩ | ⟨op, left⟩ <;> rfl

end Operator

namespace Automaton

/-! ### Frames on the stack -/

/-- The state in which the operand inside some frames is to come. -/
def entry : List Frame → State
  | [] => .start
  | .bracket :: _ => .awaiting .bracket
  | .waiting _ operator :: _ => .awaiting operator.slot

theorem hole?_entry (frames : List Frame) : (entry frames).hole? = some (hole frames) := by
  cases frames with
  | nil => rfl
  | cons frame frames =>
      cases frame with
      | bracket => rfl
      | waiting token operator => exact congrArg some operator.wants_slot

/-- The cells that an operator leaves on the stack, above those of the state `outer`. -/
inductive Written (outer : State) (token : Token) : Operator → List Cell → Prop where
  | negation : Written outer token .negation [⟨.awaiting .negation, .token token⟩]
  | modal (op : Modality) :
      Written outer token (.modal op none) [⟨.awaiting (.modal op), .token token⟩]
  | indexed (op : Modality) (mark : Token) (named : Agent) :
      Written outer token (.modal op (some named))
        [⟨.awaiting (.indexed op), .agent named⟩, ⟨.subscript op, .token mark⟩,
          ⟨.awaiting (.modal op), .token token⟩]
  | narrow (op : Quantifier) (bound : Token) :
      Written outer token (.narrow op bound.value)
        [⟨.awaiting (.narrow op), .token bound⟩, ⟨.quantifier op, .token token⟩]
  | wide (op : Quantifier) (bound dot : Token) :
      Written outer token (.wide op bound.value)
        [⟨.awaiting (.wide op), .token dot⟩, ⟨.awaiting (.narrow op), .token bound⟩,
          ⟨.quantifier op, .token token⟩]
  | binary (op : Connective) (left : Formula) :
      Written outer token (.binary op left)
        [⟨.awaiting (.right op), .token token⟩, ⟨outer.place op.left, .formula left⟩]

/-- A stack that holds open frames, and nothing on top of them. -/
inductive Laid : List Frame → List Cell → Prop where
  | start : Laid [] []
  | bracket {frames : List Frame} {stack : List Cell} (opening : Token)
      (outer : Laid frames stack) :
      Laid (.bracket :: frames) (⟨.awaiting .bracket, .token opening⟩ :: stack)
  | waiting {frames : List Frame} {stack own : List Cell} {token : Token} {operator : Operator}
      (outer : Laid frames stack) (fits : (hole frames).level ≤ operator.stratum.level)
      (written : Written (entry frames) token operator own) :
      Laid (.waiting token operator :: frames) (own ++ stack)

theorem Written.top_append {outer : State} {token : Token} {operator : Operator} {own : List Cell}
    (written : Written outer token operator own) (stack : List Cell) :
    top (own ++ stack) = .awaiting operator.slot := by
  cases written <;> rfl

theorem Laid.top_eq {frames : List Frame} {stack : List Cell} (laid : Laid frames stack) :
    top stack = entry frames := by
  cases laid with
  | start => rfl
  | bracket => rfl
  | waiting outer fits written => exact written.top_append _

theorem Laid.hole? {frames : List Frame} {stack : List Cell} (laid : Laid frames stack) :
    (top stack).hole? = some (hole frames) := by
  rw [laid.top_eq, hole?_entry]

/-- A stack with a phrase on top that counts as one of a stratum. -/
def phraseOn (s : Stratum) (f : Formula) (stack : List Cell) : List Cell :=
  ⟨(top stack).place s, .formula f⟩ :: stack

@[simp] theorem top_phraseOn (s : Stratum) (f : Formula) (stack : List Cell) :
    top (phraseOn s f stack) = (top stack).place s := rfl

/-! ### Reductions before a follower -/

theorem push_stratum {stack : List Cell} {wanted s : Stratum} (f : Formula)
    (isHole : (top stack).hole? = some wanted) (fits : wanted.level ≤ s.level) :
    push (.stratum s) (.formula f) stack = .reduced (phraseOn s f stack) := by
  rw [push, State.goto_stratum_eq_some_iff.2 ⟨wanted, isHole, fits, rfl⟩]
  rfl

theorem push_base {stack : List Cell} {wanted : Stratum} (b : Base) (f : Formula)
    (isHole : (top stack).hole? = some wanted) :
    push (.base b) (.formula f) stack = .reduced (⟨.base b, .formula f⟩ :: stack) := by
  rw [push, State.goto_base_eq_some_iff.2 ⟨by rw [isHole]; rfl, rfl⟩]

/-- A phrase is loosened before every follower, except that only the end makes a formula the goal. -/
theorem Rule.loosen_follows {s : Stratum} (notFormula : s ≠ .formula) (next : Follower) :
    (Rule.loosen s).follows next.ahead = true := by
  cases s with
  | formula => exact absurd rfl notFormula
  | _ => exact congrArg Option.isSome next.follower?_ahead

/-- A rule that is complete is reduced where no token is shifted. -/
theorem State.action_of_completed {state : State} {rule : Rule} {ahead : Lookahead}
    (complete : state.completed? = some rule) (notGoal : rule ≠ .loosen .formula)
    (follows : rule.follows ahead = true) (noShift : state.shift? ahead = none) :
    state.action ahead = some (.reduce rule) := by
  simp only [action, noShift, reduction, complete, follows, if_true, if_neg notGoal]

namespace State

/-- Only a connective with a left operand of its stratum is shifted behind an inner phrase. -/
theorem shift?_inner {s : Stratum} {next : Follower}
    (apart : ∀ op, next = .connective op → op.left ≠ s) :
    (inner s).shift? next.ahead = none := by
  cases next with
  | connective op =>
      change joining s op.kind = none
      rw [joining, op.connective?_kind]
      exact if_neg (apart op rfl)
  | closing | ending => rfl

/-- Before what completes an operator nothing is shifted behind its operand. -/
theorem shift?_filled {operator : Operator} {next : Follower} {isSealed : Bool}
    (closes : operator.closedBy next isSealed = true) :
    (filled operator.slot).shift? next.ahead = none := by
  cases operator with
  | binary op left =>
      cases next with
      | connective later => cases op <;> cases later <;> first | rfl | cases closes
      | closing | ending => cases op <;> rfl
  | modal op named => cases named <;> cases next <;> rfl
  | _ => cases next <;> rfl

end State

section Reductions

variable {limit : Limit} {found : Option Token} {next : Follower}

/-- The engine goes on behind a reduction. -/
theorem settle_of_reduce {stack stack' : List Cell} (rule : Rule)
    (prescribed : (top stack).action (aheadOf found) = some (.reduce rule))
    (reduced : reduce limit rule stack = .reduced stack') :
    settle limit found stack = settle limit found stack' := by
  apply settle_of_reduced
  simp only [round, prescribed, reduced]

/-- A phrase that is too tight for its place is loosened by one stratum. -/
theorem settle_loosen {stack : List Cell} {wanted s : Stratum} (f : Formula)
    (follows : aheadOf found = next.ahead)
    (isHole : (top stack).hole? = some wanted) (tighter : wanted.level < s.level)
    (apart : ∀ op, next = .connective op → op.left ≠ s) :
    ∃ s', s'.level + 1 = s.level ∧
      settle limit found (phraseOn s f stack) = settle limit found (phraseOn s' f stack) := by
  have notFormula : s ≠ .formula := by
    rintro rfl
    exact absurd tighter (Nat.not_lt_zero _)
  have place_eq : (top stack).place s = .inner s := by
    cases stack_top : top stack with
    | awaiting slot =>
        rw [stack_top] at isHole
        cases isHole
        refine if_neg ?_
        rintro rfl
        exact absurd tighter (Nat.lt_irrefl _)
    | _ => rfl
  obtain ⟨s', below, result_eq⟩ := Rule.exists_result_loosen notFormula
  have reduced : reduce limit (.loosen s) (phraseOn s f stack) =
      .reduced (phraseOn s' f stack) := by
    change push (Rule.loosen s).result (.formula f) stack = _
    rw [result_eq]
    exact push_stratum f isHole (by omega)
  refine ⟨s', below, settle_of_reduce _ ?_ reduced⟩
  rw [top_phraseOn, place_eq, follows]
  refine State.action_of_completed rfl ?_ (Rule.loosen_follows notFormula next)
    (State.shift?_inner apart)
  rintro same
  cases same
  exact notFormula rfl

/-- A phrase is loosened until it has the stratum of its place, or one to which a connective that
    follows joins it. -/
theorem settle_climb {stack : List Cell} {wanted s target : Stratum} (f : Formula)
    (follows : aheadOf found = next.ahead)
    (isHole : (top stack).hole? = some wanted) (fits : wanted.level ≤ target.level)
    (tighter : target.level ≤ s.level)
    (apart : ∀ op, next = .connective op →
      op.left.level ≤ target.level ∨ s.level < op.left.level) :
    settle limit found (phraseOn s f stack) = settle limit found (phraseOn target f stack) := by
  obtain ⟨gap, levels⟩ := Nat.exists_eq_add_of_le tighter
  induction gap generalizing s with
  | zero =>
      rw [Stratum.level_injective levels]
  | succ gap ih =>
      have apart' : ∀ op, next = .connective op → op.left ≠ s := by
        rintro op isNext rfl
        have := apart op isNext
        omega
      obtain ⟨s', below, loosened⟩ := settle_loosen f follows isHole (by omega) apart'
      rw [loosened]
      refine ih (by omega) ?_ (by omega)
      intro op isNext
      have := apart op isNext
      omega

/-- A phrase that is an operand of a modal operator by itself counts as a tight one. -/
theorem settle_base {stack : List Cell} {wanted : Stratum} (b : Base) (f : Formula)
    (follows : aheadOf found = next.ahead) (isHole : (top stack).hole? = some wanted) :
    settle limit found (⟨.base b, .formula f⟩ :: stack) =
      settle limit found (phraseOn .tight f stack) := by
  refine settle_of_reduce (.base b) ?_ (push_stratum f isHole wanted.level_le_tight)
  rw [follows]
  refine State.action_of_completed rfl Rule.noConfusion ?_ (by cases next <;> rfl)
  exact congrArg Option.isSome next.follower?_ahead

/-- A rule whose formula can exceed the limit fails when it does. -/
theorem reduce_checked {limit : Limit} {rule : Rule} {stack : List Cell} {token : Token}
    {f : Formula}
    (built : rule.build limit ((stack.take rule.body.length).map Cell.value).reverse =
      some (checked limit token f)) :
    reduce limit rule stack =
      if limit.allows f then push rule.result (.formula f) (stack.drop rule.body.length)
      else .settled (.failed (.tooDeep token)) := by
  rw [reduce, built, checked]
  cases limit.allows f <;> rfl

/-- What a reduction by an operator's rule comes to. -/
theorem reduce_written (limit : Limit) {outer : State} {token : Token} {operator : Operator}
    {own : List Cell} (written : Written outer token operator own) (f : Formula)
    (stack : List Cell) :
    reduce limit operator.rule (⟨.filled operator.slot, .formula f⟩ :: (own ++ stack)) =
      if limit.allows (operator.apply f) then
        push operator.rule.result (.formula (operator.apply f)) stack
      else .settled (.failed (.tooDeep token)) := by
  cases written <;> exact reduce_checked rfl

/-- What an operator makes is a phrase of its stratum, for a quantifier by one more rule. -/
theorem exists_push_rule (limit : Limit) {stack : List Cell} {wanted : Stratum}
    (operator : Operator) (f : Formula)
    (follows : aheadOf found = next.ahead) (isHole : (top stack).hole? = some wanted)
    (fits : wanted.level ≤ operator.stratum.level) :
    ∃ stack', push operator.rule.result (.formula f) stack = .reduced stack' ∧
      settle limit found stack' = settle limit found (phraseOn operator.stratum f stack) := by
  cases operator with
  | negation | binary op left => exact ⟨_, push_stratum f isHole fits, rfl⟩
  | modal op named =>
      cases named <;> exact ⟨_, push_stratum f isHole fits, rfl⟩
  | narrow op bound | wide op bound =>
      exact ⟨_, push_base .quantified f isHole, settle_base .quantified f follows isHole⟩

/-- An operator whose operand has the stratum that it wants is applied before what completes it. -/
theorem settle_apply {frames : List Frame} {stack own : List Cell} {token : Token}
    {operator : Operator} {isSealed : Bool} (f : Formula)
    (follows : aheadOf found = next.ahead) (laid : Laid frames stack)
    (fits : (hole frames).level ≤ operator.stratum.level)
    (written : Written (entry frames) token operator own)
    (closes : operator.closedBy next isSealed = true) :
    settle limit found (phraseOn operator.operand f (own ++ stack)) =
      if limit.allows (operator.apply f) then
        settle limit found (phraseOn operator.stratum (operator.apply f) stack)
      else .failed (.tooDeep token) := by
  have stack_eq : phraseOn operator.operand f (own ++ stack) =
      ⟨.filled operator.slot, .formula f⟩ :: (own ++ stack) := by
    rw [phraseOn, written.top_append, State.place, operator.wants_slot, if_pos rfl]
  have prescribed : (State.filled operator.slot).action (aheadOf found) =
      some (.reduce operator.rule) := by
    rw [follows]
    refine State.action_of_completed operator.rule?_slot ?_ ?_ (State.shift?_filled closes)
    · cases operator with
      | modal op named => cases named <;> exact Rule.noConfusion
      | _ => exact Rule.noConfusion
    · cases operator with
      | modal op named => cases named <;> exact congrArg Option.isSome next.follower?_ahead
      | _ => exact congrArg Option.isSome next.follower?_ahead
  rw [stack_eq]
  have reduced := reduce_written limit written f stack
  by_cases allowed : limit.allows (operator.apply f) = true
  · obtain ⟨stack', pushed, settled⟩ := exists_push_rule limit operator
      (operator.apply f) follows laid.hole? fits
    rw [if_pos allowed, pushed] at reduced
    rw [if_pos allowed, ← settled]
    exact settle_of_reduce _ prescribed reduced
  · rw [if_neg allowed] at reduced ⊢
    apply settle_of_settled
    simp only [round, top, prescribed, reduced]

end Reductions

/-! ### Completing operators -/

/-- A phrase of a stratum inside some frames faces a follower. A connective can join it, unless
    the phrase is a sealed biconditional and the connective another one. -/
structure Faces (next : Follower) (frames : List Frame) (s : Stratum) (isSealed : Bool) :
    Prop where
  fits : (hole frames).level ≤ s.level
  joins : ∀ op, next = .connective op →
    op.left.level ≤ s.level ∨ isSealed = true ∧ op = .biconditional
  sealed : isSealed = true → s = .biconditional

/-- No operator is innermost that the follower completes. -/
def Stopped (next : Follower) (frames : List Frame) (isSealed : Bool) : Prop :=
  ∀ token operator outer, frames = .waiting token operator :: outer →
    operator.closedBy next isSealed = false

section Closing

variable {limit : Limit} {found : Option Token} {next : Follower} {frames : List Frame}
  {stack : List Cell} {s : Stratum} {f : Formula} {isSealed : Bool}

/-- A phrase that begins as an operand of a modal operator can be joined by every connective. -/
theorem faces_tight (next : Follower) (frames : List Frame) : Faces next frames .tight false where
  fits := Stratum.level_le_tight _
  joins op _ := .inl (op.left_le_unary.trans (by decide))
  sealed := nofun

/-- What an operator makes stands in the frames around it. -/
theorem Faces.apply {operator : Operator}
    (fits : (hole frames).level ≤ operator.stratum.level)
    (closes : operator.closedBy next isSealed = true) :
    Faces next frames operator.stratum operator.seals where
  fits := fits
  joins later isNext := by
    subst isNext
    cases operator with
    | binary op left =>
        have looser := (op.closedBy_connective later).1 closes
        revert looser
        cases op <;> cases later <;> simp [Operator.stratum, Operator.seals, Connective.stratum,
          Connective.left, Connective.right, Stratum.level]
    | _ => exact .inl (later.left_le_unary.trans (by simp [Operator.stratum, Stratum.level]))
  sealed seals := by
    cases operator with
    | binary op left =>
        cases op with
        | biconditional => rfl
        | _ => cases seals
    | _ => cases seals

/-- Where the innermost operator takes the phrase behind it, the engine applies it. -/
theorem exists_settle_close {token : Token} {operator : Operator}
    (follows : aheadOf found = next.ahead)
    (laid : Laid (.waiting token operator :: frames) stack)
    (faces : Faces next (.waiting token operator :: frames) s isSealed)
    (closes : operator.closedBy next isSealed = true) (f : Formula) :
    ∃ outer, Laid frames outer ∧ Faces next frames operator.stratum operator.seals ∧
      settle limit found (phraseOn s f stack) =
        if limit.allows (operator.apply f) then
          settle limit found (phraseOn operator.stratum (operator.apply f) outer)
        else .failed (.tooDeep token) := by
  have isHole := laid.hole?
  cases laid with
  | @waiting _ outer own _ _ laidOuter fits written =>
      refine ⟨outer, laidOuter, .apply fits closes, ?_⟩
      rw [← settle_apply f follows laidOuter fits written closes]
      refine settle_climb f follows isHole (Nat.le_refl _) faces.fits ?_
      rintro op rfl
      cases isSealed with
      | false =>
          have looser := (operator.closedBy_connective op).1 closes
          exact .inl (op.left_le_succ_stratum.trans looser)
      | true =>
          rw [faces.sealed rfl]
          exact .inr op.two_le_left

/-- A reading that gives up at an operator that is too deep does so at the reduction by its rule. -/
theorem settle_closeFrames_error {failure : Failure}
    (follows : aheadOf found = next.ahead) (laid : Laid frames stack)
    (faces : Faces next frames s isSealed)
    (failed : closeFrames limit next frames f isSealed = .error failure) :
    settle limit found (phraseOn s f stack) = .failed failure := by
  fun_induction closeFrames limit next frames f isSealed generalizing s stack with
  | case1 token operator frames f isSealed closes allowed ih =>
      obtain ⟨outer, laidOuter, facesOuter, settled⟩ :=
        exists_settle_close follows laid faces closes f
      rw [settled, if_pos allowed]
      exact ih laidOuter facesOuter failed
  | case2 token operator frames f isSealed closes tooDeep =>
      obtain ⟨outer, laidOuter, facesOuter, settled⟩ :=
        exists_settle_close follows laid faces closes f
      cases failed
      rw [settled, if_neg tooDeep]
  | case3 | case4 => cases failed

/-- What a reading completes before a follower, the engine reduces. -/
theorem exists_settle_closeFrames {phrase : Phrase}
    (follows : aheadOf found = next.ahead) (laid : Laid frames stack)
    (faces : Faces next frames s isSealed)
    (closed : closeFrames limit next frames f isSealed = .ok phrase) :
    ∃ s' stack', Laid phrase.frames stack' ∧ Faces next phrase.frames s' phrase.isSealed ∧
      Stopped next phrase.frames phrase.isSealed ∧
      settle limit found (phraseOn s f stack) =
        settle limit found (phraseOn s' phrase.formula stack') := by
  fun_induction closeFrames limit next frames f isSealed generalizing s stack with
  | case1 token operator frames f isSealed closes allowed ih =>
      obtain ⟨outer, laidOuter, facesOuter, settled⟩ :=
        exists_settle_close follows laid faces closes f
      rw [settled, if_pos allowed]
      exact ih laidOuter facesOuter closed
  | case2 => cases closed
  | case3 token operator frames f isSealed stays =>
      cases closed
      refine ⟨s, stack, laid, faces, ?_, rfl⟩
      intro token' operator' outer same
      cases same
      simpa using stays
  | case4 frames f isSealed notWaiting =>
      cases closed
      exact ⟨s, stack, laid, faces, fun token operator outer same =>
        (notWaiting token operator outer same).elim, rfl⟩

end Closing

end Automaton

end ModalLanguage
