/-
Module: ModalLanguage.Formula.Equality
Purpose: Comparing formulas without recursion. Pairs of formulas that have to agree are kept in a
  list; a pair agrees when the two nodes do, and its operands join the list. A number computed of
  each formula may tell two of them apart before their nodes are looked at. Whatever number that is,
  comparing finds exactly the identical trees, so it serves as equality in sets of formulas.
Main exports: Formula.sameNode, allSame, Formula.same, allSame_iff
-/
import ModalLanguage.Formula.Basic

namespace ModalLanguage

namespace Formula

/-- Whether two nodes agree in everything but their operands. -/
def sameNode : Formula → Formula → Bool
  | atom name, atom name' => name == name'
  | constant value, constant value' => value == value'
  | predicate name first rest, predicate name' first' rest' =>
    name == name' && first == first' && rest == rest'
  | foreign kind text, foreign kind' text' => kind == kind' && text == text'
  | negation _, negation _ => true
  | modal op agent _, modal op' agent' _ => op == op' && agent == agent'
  | quantified op bound _, quantified op' bound' _ => op == op' && bound == bound'
  | binary op _ _, binary op' _ _ => op == op'
  | _, _ => false

/-- Formulas are identical when their nodes agree and their operands are identical. -/
theorem eq_iff_sameNode (f g : Formula) :
    f = g ↔ f.sameNode g = true ∧ ∀ pair ∈ f.children.zip g.children, pair.1 = pair.2 := by
  cases f <;> cases g <;> simp [sameNode, children, and_assoc]

end Formula

/-- The number of nodes on the left of all pairs. -/
def totalLeftSize (pairs : List (Formula × Formula)) : Nat :=
  totalSize (pairs.map Prod.fst)

theorem totalLeftSize_zip_le (first second : List Formula) :
    totalLeftSize (first.zip second) ≤ totalSize first := by
  induction first generalizing second with
  | nil => simp [totalLeftSize]
  | cons f first ih =>
    cases second with
    | nil => simp [totalLeftSize]
    | cons g second =>
      have := ih second
      simp only [totalLeftSize, List.zip_cons_cons, List.map_cons, totalSize_cons] at this ⊢
      omega

/-- Whether the two formulas of every pair are the same. The digest settles most unequal pairs. -/
def allSame (digest : Formula → UInt64) : List (Formula × Formula) → Bool
  | [] => true
  | (f, g) :: pairs =>
    if digest f == digest g && f.sameNode g then
      allSame digest (f.children.zip g.children ++ pairs)
    else false
termination_by pairs => totalLeftSize pairs
decreasing_by
  have smaller := totalLeftSize_zip_le f.children g.children
  have node := f.size_eq
  simp only [totalLeftSize, List.map_append, List.map_cons, totalSize_append,
    totalSize_cons] at smaller ⊢
  omega

/-- Comparing by any digest finds exactly the identical pairs. -/
theorem allSame_iff (digest : Formula → UInt64) (pairs : List (Formula × Formula)) :
    allSame digest pairs = true ↔ ∀ pair ∈ pairs, pair.1 = pair.2 := by
  fun_induction allSame digest pairs with
  | case1 => simp
  | case2 f g pairs agree ih =>
    simp only [Bool.and_eq_true, beq_iff_eq] at agree
    rw [ih]
    simp only [List.mem_append, List.mem_cons, forall_eq_or_imp, f.eq_iff_sameNode g, agree.2,
      true_and]
    constructor
    · intro all
      exact ⟨fun pair member => all pair (.inl member), fun pair member => all pair (.inr member)⟩
    · rintro ⟨operands, others⟩ pair (member | member)
      · exact operands pair member
      · exact others pair member
  | case3 f g pairs differ =>
    simp only [Bool.false_eq_true, List.mem_cons, forall_eq_or_imp, false_iff, not_and]
    intro same
    subst same
    exact absurd (by simp [((f.eq_iff_sameNode f).1 rfl).1]) differ

namespace Formula

/-- Equality of formulas, settled by their digests first. -/
def same (f g : Formula) : Bool := allSame digest [(f, g)]

instance : BEq Formula := ⟨same⟩

instance : LawfulBEq Formula where
  eq_of_beq {f g} h := by
    have := (allSame_iff digest [(f, g)]).1 h
    simpa using this
  rfl {f} := (allSame_iff digest [(f, f)]).2 (by simp)

instance : Hashable Formula := ⟨digest⟩

end Formula

end ModalLanguage
