/-
Module: ModalLanguage.Proofs.StructuralEquality
Purpose: Two objects are found to be the same exactly when they are the same formula, whatever rule
  computes the digests. The digest that an object carries was mixed of the digests of its operands
  when it was built, and so by induction it is a function of its formula (`digest_eq`). Hence
  comparing digests separates no equal formulas, and comparing places passes over pairs that are
  equal anyway; what is left is a comparison of nodes and of operands, which finds every difference
  (`allSame_iff`). Every two formulas can be built, each as an object of its own, so this speaks of
  all of them.
Main exports: FormulaStore.digest_eq, FormulaStore.allSame_iff, FormulaStore.Built.exists_objects,
  FormulaStore.offers, FormulaStore.equality_is_structural
-/
import ModalLanguage.Formula.Store

namespace ModalLanguage.FormulaStore

variable {Place Digest : Type} {mix : Head → List Digest → Digest}

/-! ### Digests -/

/-- The digest that an object carries is that of its formula. -/
theorem digest_eq (store : FormulaStore Place mix) (place : Place) :
    store.digest place = (store.formula place).digestBy mix := by
  induction formula_eq : store.formula place using Formula.children_induction
    generalizing place with
  | node f ih =>
      have operands : (store.operands place).map store.digest =
          (store.operands place).map fun operand => (store.formula operand).digestBy mix := by
        apply List.map_congr_left
        intro operand member
        have isChild : store.formula operand ∈ f.children := by
          rw [← formula_eq, ← store.linked]
          exact List.mem_map_of_mem member
        exact ih _ isChild operand rfl
      rw [store.digested, operands, f.digestBy_eq, ← formula_eq, ← store.linked, List.map_map]
      rfl

/-! ### Comparison -/

/-- The operands of two objects agree when those of their formulas do. -/
theorem forall_mem_zip_operands_iff (store : FormulaStore Place mix) (left right : Place) :
    (∀ pair ∈ (store.operands left).zip (store.operands right),
        store.formula pair.1 = store.formula pair.2) ↔
      ∀ pair ∈ (store.formula left).children.zip (store.formula right).children,
        pair.1 = pair.2 := by
  rw [← store.linked, ← store.linked, List.zip_map, List.forall_mem_map]
  rfl

section Comparison

variable [DecidableEq Place] [DecidableEq Digest]

/-- The comparison finds every pair to agree exactly when the formulas of each pair are identical. -/
theorem allSame_iff (store : FormulaStore Place mix) (pairs : List (Place × Place)) :
    store.allSame pairs = true ↔
      ∀ pair ∈ pairs, store.formula pair.1 = store.formula pair.2 := by
  fun_induction allSame store pairs with
  | case1 => simp
  | case2 left pairs ih => simp [ih]
  | case3 left right pairs apart agree ih =>
      rw [ih, List.forall_mem_append, store.forall_mem_zip_operands_iff, List.forall_mem_cons,
        (store.formula left).eq_iff_sameNode]
      simp [agree.1]
  | case4 left right pairs apart disagree =>
      simp only [Bool.false_eq_true, List.forall_mem_cons, false_iff, not_and]
      intro identical
      -- Identical formulas have the same node and, by what digests are, the same digest.
      have node := (((store.formula left).eq_iff_sameNode _).1 identical).1
      have digest : store.digest left = store.digest right := by
        rw [store.digest_eq, store.digest_eq, identical]
      exact absurd ⟨node, digest⟩ disagree

theorem same_iff (store : FormulaStore Place mix) (left right : Place) :
    store.same left right = true ↔ store.formula left = store.formula right := by
  rw [same, allSame_iff]
  simp

end Comparison

/-! ### Building -/

/-- A later store holds the formulas of a store, each at the place that it was moved to. -/
def Keeps {Later : Type} (store : FormulaStore Place mix) (later : FormulaStore Later mix)
    (moved : Place → Later) : Prop :=
  ∀ place, later.formula (moved place) = store.formula place

/-- A node whose operands are there is built, and the store behind it has one more object. -/
theorem build_of_operands (store : FormulaStore Place mix) {f : Formula} {operands : List Place}
    (are : operands.map store.formula = f.children) :
    store.build f.head operands = .ok (store.add f operands are) := by
  have node : f.head.build (operands.map store.formula) = .ok f := by
    rw [are]
    exact f.build_head
  unfold build
  split
  · next fault failed => cases node.symm.trans failed
  · next g built =>
      cases node.symm.trans built
      rfl

/-- Whatever store was built, it can be built further until a new place holds a formula. -/
def Offers (mix : Head → List Digest → Digest) (f : Formula) : Prop :=
  ∀ {Place : Type} {store : FormulaStore Place mix}, store.Built →
    ∃ (Later : Type) (later : FormulaStore Later mix) (moved : Place → Later) (new : Later),
      later.Built ∧ store.Keeps later moved ∧ later.formula new = f ∧ ∀ place, moved place ≠ new

/-- Objects for a list of formulas are built one after another. -/
theorem Built.exists_objects {fs : List Formula} (offers : ∀ f ∈ fs, Offers mix f)
    {store : FormulaStore Place mix} (built : store.Built) :
    ∃ (Later : Type) (later : FormulaStore Later mix) (moved : Place → Later)
      (places : List Later),
      later.Built ∧ store.Keeps later moved ∧ places.map later.formula = fs := by
  induction fs generalizing Place with
  | nil => exact ⟨Place, store, id, [], built, fun _ => rfl, rfl⟩
  | cons f fs ih =>
      obtain ⟨offers, offersRest⟩ := List.forall_mem_cons.1 offers
      obtain ⟨Later, later, moved, new, built, keeps, is, -⟩ := offers built
      obtain ⟨Last, last, moved', places, built, keeps', are⟩ := ih offersRest built
      refine ⟨Last, last, moved' ∘ moved, moved' new :: places, built, ?_, ?_⟩
      · intro place
        exact (keeps' _).trans (keeps place)
      · rw [List.map_cons, are, keeps' new, is]

/-- Every formula can be built as a new object: first its operands, and then the node over them. -/
theorem offers (f : Formula) : Offers mix f := by
  induction f using Formula.children_induction with
  | node f ih =>
      intro Place store built
      obtain ⟨Later, later, moved, places, built, keeps, are⟩ := built.exists_objects ih
      refine ⟨Option Later, later.add f places are, some ∘ moved, none,
        .build built (later.build_of_operands are), keeps, rfl, ?_⟩
      intro place
      exact Option.some_ne_none _

/-! ### Equality -/

/-- Equality of objects is equality of formulas, whatever rule computes the digests. Every two
    formulas can be built as two objects. Wherever two formulas are, and whatever they share, they
    are found to be the same when they are identical, and then their digests are the same; otherwise
    they are found to differ. Comparing the formulas themselves, by any digests, finds the same. -/
theorem equality_is_structural [DecidableEq Digest] (mix : Head → List Digest → Digest) :
    (∀ f g : Formula, ∃ (Place : Type) (store : FormulaStore Place mix) (left right : Place),
      store.Built ∧ left ≠ right ∧ store.formula left = f ∧ store.formula right = g) ∧
      ∀ (Place : Type) [DecidableEq Place] (store : FormulaStore Place mix) (left right : Place),
        (store.same left right = true ↔ store.formula left = store.formula right) ∧
          (store.same left right = true → store.digest left = store.digest right) ∧
          (store.differ left right = true ↔ store.formula left ≠ store.formula right) ∧
          ∀ digest : Formula → UInt64,
            ModalLanguage.allSame digest [(store.formula left, store.formula right)] =
              store.same left right := by
  constructor
  · intro f g
    obtain ⟨Place, store, -, left, built, -, isLeft, -⟩ := offers f .empty
    obtain ⟨Later, later, moved, right, built, keeps, isRight, apart⟩ := offers g built
    exact ⟨Later, later, moved left, right, built, apart left, (keeps left).trans isLeft, isRight⟩
  · intro Place _ store left right
    have found := store.same_iff left right
    refine ⟨found, ?_, ?_, ?_⟩
    · intro same
      rw [store.digest_eq, store.digest_eq, found.1 same]
    · rw [differ, Bool.not_eq_true', ← Bool.not_eq_true, found]
    · intro digest
      rw [Bool.eq_iff_iff, found, ModalLanguage.allSame_iff]
      simp

end ModalLanguage.FormulaStore
