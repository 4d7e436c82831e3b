/-
Module: ModalLanguage.Proofs.Subformulas
Purpose: The worklist collects exactly the subformulas. A formula that was seen is passed over, so
  what is below it has to be found in another way: the operands of every formula that was seen were
  seen too or are still in the worklist (`Covers`), and at the end nothing is in the worklist. Each
  pass takes a node off the worklist for good, so there are no more passes than nodes
  (`Collection.iterate_pass`). Subformulas are ordered, so the sets of subformulas are too. The names
  that a formula is said to use are those of the nodes in it.
Main exports: Covers, Formula.subformula_iff, mem_collectSubformulas_iff,
  Formula.mem_subformulas_iff, Formula.mem_namesBy_iff, Collection.pass, Collection.iterate_pass,
  Formula.Subformula.trans, Formula.Subformula.antisymm, Formula.subformulas_are_subtrees
-/
import Mathlib.Logic.Function.Iterate
import ModalLanguage.Formula.Vocabulary

namespace ModalLanguage

/-- The operands of the formulas that were seen were seen themselves or are still to be visited. -/
def Covers (seen : Std.HashSet Formula) (work : List Formula) : Prop :=
  ∀ f ∈ seen, ∀ operand ∈ f.children, operand ∈ seen ∨ operand ∈ work

theorem covers_empty (work : List Formula) : Covers ∅ work := by
  intro f member
  exact absurd member Std.HashSet.not_mem_empty

namespace Covers

variable {seen : Std.HashSet Formula} {work : List Formula} {f : Formula}

/-- A formula that was seen before may be passed over. -/
theorem pass (covers : Covers seen (f :: work)) (known : f ∈ seen) : Covers seen work := by
  intro g member operand isOperand
  rcases covers g member operand isOperand with inSeen | inWork
  · exact .inl inSeen
  · rcases List.mem_cons.1 inWork with rfl | behind
    · exact .inl known
    · exact .inr behind

/-- A formula that is visited leaves its operands to be visited. -/
theorem visit (covers : Covers seen (f :: work)) :
    Covers (seen.insert f) (f.children ++ work) := by
  intro g member operand isOperand
  rcases Std.HashSet.mem_insert.1 member with same | inSeen
  · obtain rfl := eq_of_beq same
    exact .inr (List.mem_append_left _ isOperand)
  · rcases covers g inSeen operand isOperand with before | inWork
    · exact .inl (Std.HashSet.mem_insert.2 (.inr before))
    · rcases List.mem_cons.1 inWork with rfl | behind
      · exact .inl Std.HashSet.mem_insert_self
      · exact .inr (List.mem_append_right _ behind)

end Covers

/-- What is below a formula that was seen was seen too, or is below one that is still to be
    visited. -/
theorem Covers.below {seen : Std.HashSet Formula} {work : List Formula} {f g : Formula}
    (covers : Covers seen work) (inside : g.Subformula f) (known : f ∈ seen) :
    g ∈ seen ∨ ∃ h ∈ work, g.Subformula h := by
  induction inside with
  | self => exact .inl known
  | @operand operand h isOperand inside ih =>
      rcases covers h known operand isOperand with inSeen | inWork
      · exact ih inSeen
      · exact .inr ⟨operand, inWork, inside⟩

/-- A subformula is the formula itself or one of an operand. -/
theorem Formula.subformula_iff {f g : Formula} :
    g.Subformula f ↔ g = f ∨ ∃ operand ∈ f.children, g.Subformula operand := by
  constructor
  · intro inside
    cases inside with
    | self => exact .inl rfl
    | operand isOperand inside => exact .inr ⟨_, isOperand, inside⟩
  · rintro (rfl | ⟨operand, isOperand, inside⟩)
    · exact .self
    · exact .operand isOperand inside

/-- The worklist collects what was seen, and all that is below the formulas in it. -/
theorem mem_collectSubformulas_iff {seen : Std.HashSet Formula} {work : List Formula}
    (covers : Covers seen work) (g : Formula) :
    g ∈ collectSubformulas seen work ↔ g ∈ seen ∨ ∃ f ∈ work, g.Subformula f := by
  fun_induction collectSubformulas seen work with
  | case1 seen => simp
  | case2 seen f work known ih =>
      have known : f ∈ seen := Std.HashSet.mem_iff_contains.2 known
      simp only [ih (covers.pass known), List.mem_cons, exists_eq_or_imp]
      constructor
      · rintro (inSeen | inWork)
        · exact .inl inSeen
        · exact .inr (.inr inWork)
      · rintro (inSeen | inside | inWork)
        · exact .inl inSeen
        · exact (covers.pass known).below inside known
        · exact .inr inWork
  | case3 seen f work new ih =>
      simp only [ih covers.visit, Std.HashSet.mem_insert, beq_iff_eq, List.mem_append,
        List.mem_cons, or_and_right, exists_or, exists_eq_left, Formula.subformula_iff (f := f),
        eq_comm (a := f)]
      rw [or_assoc, or_left_comm, or_assoc]

namespace Formula

/-- The set of subformulas holds just the formulas that occur in a formula. -/
theorem mem_subformulas_iff (f g : Formula) : g ∈ f.subformulas ↔ g.Subformula f := by
  rw [subformulas, mem_collectSubformulas_iff (covers_empty [f])]
  simp

/-- The names of one sort are those of the nodes in a formula. -/
theorem mem_namesBy_iff (name? : Formula → Option String) (f : Formula) (name : String) :
    name ∈ f.namesBy name? ↔ ∃ g : Formula, g.Subformula f ∧ name? g = some name := by
  simp only [namesBy, mem_distinctTexts, List.mem_filterMap, Std.HashSet.mem_toList,
    mem_subformulas_iff]

end Formula

/-! ### Passes -/

/-- How far collecting subformulas has come: what was seen, and what is still to be visited. -/
structure Collection where
  seen : Std.HashSet Formula
  work : List Formula

namespace Collection

/-- One pass takes a formula off the worklist, and visits it when it was not seen before. -/
def pass : Collection → Collection
  | ⟨seen, []⟩ => ⟨seen, []⟩
  | ⟨seen, f :: work⟩ =>
    if seen.contains f then ⟨seen, work⟩ else ⟨seen.insert f, f.children ++ work⟩

/-- After as many passes as there are nodes in the worklist it is empty, and all is collected. -/
theorem iterate_pass {seen : Std.HashSet Formula} {work : List Formula} {passes : Nat}
    (enough : totalSize work ≤ passes) :
    pass^[passes] ⟨seen, work⟩ = ⟨collectSubformulas seen work, []⟩ := by
  fun_induction collectSubformulas seen work generalizing passes with
  | case1 seen => exact Function.iterate_fixed rfl passes
  | case2 seen f work known ih =>
      have node := f.one_le_size
      rw [totalSize_cons] at enough
      obtain ⟨passes, rfl⟩ : ∃ behind, passes = behind + 1 := ⟨passes - 1, by omega⟩
      rw [Function.iterate_succ_apply, pass, if_pos known]
      exact ih (by omega)
  | case3 seen f work new ih =>
      have node := f.size_eq
      rw [totalSize_cons] at enough
      obtain ⟨passes, rfl⟩ : ∃ behind, passes = behind + 1 := ⟨passes - 1, by omega⟩
      rw [Function.iterate_succ_apply, pass, if_neg new]
      exact ih (by rw [totalSize_append]; omega)

end Collection

/-! ### The order of subformulas -/

namespace Formula

namespace Subformula

variable {f g h : Formula}

theorem trans (lower : g.Subformula f) (upper : f.Subformula h) : g.Subformula h := by
  induction upper with
  | self => exact lower
  | operand isOperand inside ih => exact .operand isOperand ih

/-- A subformula has fewer nodes, unless it is the formula itself. -/
theorem eq_or_size_lt (inside : g.Subformula f) : g = f ∨ g.size < f.size := by
  induction inside with
  | self => exact .inl rfl
  | @operand operand h isOperand inside ih =>
      have smaller : operand.size < h.size := size_lt_of_mem_children isOperand
      rcases ih with rfl | below
      · exact .inr smaller
      · exact .inr (Nat.lt_trans below smaller)

theorem antisymm (inside : g.Subformula f) (outside : f.Subformula g) : g = f := by
  rcases inside.eq_or_size_lt with same | smaller
  · exact same
  · rcases outside.eq_or_size_lt with same | greater
    · exact same.symm
    · omega

end Subformula

/-- Collecting ends, after no more passes than a formula has nodes, with the set of its subformulas.
    These are the formulas that occur in it as subtrees, each of them once. So the set of a
    subformula is part of the set, and holds the formula only when it is the formula itself. -/
theorem subformulas_are_subtrees (f : Formula) :
    (∃ passes ≤ f.size, Collection.pass^[passes] ⟨∅, [f]⟩ = ⟨f.subformulas, []⟩) ∧
      (∀ g, g ∈ f.subformulas ↔ g.Subformula f) ∧
      (f.subformulas.toList.Pairwise fun g h => (g == h) = false) ∧
      ∀ g ∈ f.subformulas,
        (∀ h ∈ g.subformulas, h ∈ f.subformulas) ∧ (f ∈ g.subformulas → g = f) := by
  refine ⟨⟨f.size, Nat.le_refl _, ?_⟩, f.mem_subformulas_iff, Std.HashSet.distinct_toList, ?_⟩
  · exact Collection.iterate_pass (Nat.le_of_eq (by simp))
  · simp only [mem_subformulas_iff]
    intro g inside
    exact ⟨fun h below => below.trans inside, inside.antisymm⟩

end Formula

end ModalLanguage
