/-
Module: ModalLanguage.Formula.Subformula
Purpose: The subformulas of a formula: the formula itself and the subformulas of its operands. The
  relation says which they are; the set is collected by a worklist that visits each of them once.
Main exports: Formula.Subformula, collectSubformulas, Formula.subformulas
-/
import ModalLanguage.Formula.Equality
import Std.Data.HashSet

namespace ModalLanguage

namespace Formula

/-- A subformula occurs in a formula as a subtree. -/
inductive Subformula : Formula → Formula → Prop where
  | self {f : Formula} : Subformula f f
  | operand {f g h : Formula} : g ∈ h.children → Subformula f g → Subformula f h

end Formula

/-- Visit the formulas of the worklist and what is below them. What was seen before is passed
    over. -/
def collectSubformulas (seen : Std.HashSet Formula) : List Formula → Std.HashSet Formula
  | [] => seen
  | f :: work =>
    if seen.contains f then collectSubformulas seen work
    else collectSubformulas (seen.insert f) (f.children ++ work)
termination_by work => totalSize work
decreasing_by
  · have := f.one_le_size
    simp only [totalSize_cons]
    omega
  · have := f.size_eq
    simp only [totalSize_append, totalSize_cons]
    omega

namespace Formula

/-- The set of all subformulas. -/
def subformulas (f : Formula) : Std.HashSet Formula :=
  collectSubformulas ∅ [f]

end Formula

end ModalLanguage
