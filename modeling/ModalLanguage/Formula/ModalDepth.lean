/-
Module: ModalLanguage.Formula.ModalDepth
Purpose: The greatest number of modal operators above one another. It is defined by recursion on the
  formula, and found without recursion by a worklist of formulas, each with the number of modal
  operators above it. A foreign leaf has no modal depth, and neither has a formula with one in it.
Main exports: Formula.ModalPath, Formula.modalHeight, deepestModality, Formula.modalDepth
-/
import ModalLanguage.Formula.Basic
import ModalLanguage.Formula.Fault

namespace ModalLanguage

namespace Formula

/-- Whether the node at the root is a modal operator. -/
def isModal : Formula → Bool
  | modal _ _ _ => true
  | _ => false

/-- Some path from the root to a leaf passes a number of modal operators. -/
inductive ModalPath : Formula → Nat → Prop where
  | leaf {f : Formula} : f.children = [] → ModalPath f 0
  | step {f operand : Formula} {n : Nat} :
      operand ∈ f.children → ModalPath operand n →
      ModalPath f (n + if f.isModal then 1 else 0)

/-- Modal depth, by recursion. The right operand of a connective is measured first. -/
def modalHeight : Formula → Except Fault Nat
  | atom _ => .ok 0
  | constant _ => .ok 0
  | predicate _ _ _ => .ok 0
  | foreign kind _ => .error (.unknownNode kind)
  | negation operand => operand.modalHeight
  | modal _ _ operand => operand.modalHeight.map (· + 1)
  | quantified _ _ operand => operand.modalHeight
  | binary _ left right =>
    right.modalHeight.bind fun inRight => left.modalHeight.map fun inLeft => max inLeft inRight

end Formula

/-- The number of nodes of all formulas of a worklist. -/
def totalNodes (work : List (Formula × Nat)) : Nat := totalSize (work.map Prod.fst)

/-- Follow every path of the worklist to its leaf, and keep the greatest number found there. The
    right operand of a connective is followed first. -/
def deepestModality (deepest : Nat) : List (Formula × Nat) → Except Fault Nat
  | [] => .ok deepest
  | (.atom _, above) :: work => deepestModality (max deepest above) work
  | (.constant _, above) :: work => deepestModality (max deepest above) work
  | (.predicate _ _ _, above) :: work => deepestModality (max deepest above) work
  | (.foreign kind _, _) :: _ => .error (.unknownNode kind)
  | (.negation operand, above) :: work => deepestModality deepest ((operand, above) :: work)
  | (.modal _ _ operand, above) :: work => deepestModality deepest ((operand, above + 1) :: work)
  | (.quantified _ _ operand, above) :: work => deepestModality deepest ((operand, above) :: work)
  | (.binary _ left right, above) :: work =>
    deepestModality deepest ((right, above) :: (left, above) :: work)
termination_by work => totalNodes work
decreasing_by all_goals simp only [totalNodes, List.map_cons, totalSize_cons, Formula.size]; omega

namespace Formula

/-- The modal depth of a formula without foreign leaves. -/
def modalDepth (f : Formula) : Except Fault Nat := deepestModality 0 [(f, 0)]

end Formula

end ModalLanguage
