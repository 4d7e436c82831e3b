/-
Module: ModalLanguage.Formula.Store
Purpose: Formulas as objects. An object has a place of its own. It is built over objects that are
  there already, so one object may be an operand of many, and equal formulas may be different
  objects. Its digest is computed when it is built, from its own node and from the digests that its
  operands carry. Objects are compared by a list of pairs of places. A pair of one place agrees, and
  nothing below it is looked at; a pair whose nodes or digests differ does not; of any other pair
  the operands are compared.
Main exports: Formula.digestBy, FormulaStore, FormulaStore.empty, FormulaStore.build,
  FormulaStore.Built, FormulaStore.allSame, FormulaStore.same, FormulaStore.differ
-/
import ModalLanguage.Formula.Equality
import ModalLanguage.Formula.Head

namespace ModalLanguage

namespace Formula

variable {Digest : Type} (mix : Head → List Digest → Digest)

/-- The digest of a formula by a rule that mixes a node with the digests of its operands. -/
def digestBy : Formula → Digest
  | atom name => mix (.atom name) []
  | constant value => mix (.constant value) []
  | predicate name first rest => mix (.predicate name (first :: rest)) []
  | foreign kind text => mix (.foreign kind text) []
  | negation operand => mix .negation [operand.digestBy]
  | modal op agent operand => mix (.modal op (agent.map Agent.name)) [operand.digestBy]
  | quantified op bound operand => mix (.quantified op bound) [operand.digestBy]
  | binary op left right => mix (.binary op) [left.digestBy, right.digestBy]

theorem digestBy_eq (f : Formula) :
    f.digestBy mix = mix f.head (f.children.map (digestBy mix)) := by
  cases f <;> rfl

end Formula

/-- Objects at their places. Each of them is the root of a formula and knows the places of its
    operands, which are the roots of the operands of its formula. Its digest is mixed of its node and
    of the digests of its operands. -/
structure FormulaStore (Place : Type) {Digest : Type} (mix : Head → List Digest → Digest) where
  formula : Place → Formula
  operands : Place → List Place
  digest : Place → Digest
  linked : ∀ place, (operands place).map formula = (formula place).children
  digested : ∀ place, digest place = mix (formula place).head ((operands place).map digest)

namespace FormulaStore

variable {Place Digest : Type} {mix : Head → List Digest → Digest}

/-- The store without objects. -/
def empty : FormulaStore Empty mix where
  formula := nofun
  operands := nofun
  digest := nofun
  linked := nofun
  digested := nofun

/-- A store with one more object, at a place of its own. The others stay as they are. -/
def add (store : FormulaStore Place mix) (f : Formula) (operands : List Place)
    (are : operands.map store.formula = f.children) : FormulaStore (Option Place) mix where
  formula place := place.elim f store.formula
  operands place := (place.elim operands store.operands).map some
  digest place := place.elim (mix f.head (operands.map store.digest)) store.digest
  linked place := by
    cases place with
    | none => rw [List.map_map]; exact are
    | some place => rw [List.map_map]; exact store.linked place
  digested place := by
    cases place with
    | none => rw [List.map_map]; rfl
    | some place => rw [List.map_map]; exact store.digested place

/-- Build a node over objects of a store. -/
def build (store : FormulaStore Place mix) (head : Head) (operands : List Place) :
    Except Fault (FormulaStore (Option Place) mix) :=
  match built : head.build (operands.map store.formula) with
  | .error fault => .error fault
  | .ok f => .ok (store.add f operands (Head.build_eq_ok_iff.1 built).2.symm)

/-- A store to which one comes from the empty one by building nodes. -/
inductive Built {Digest : Type} {mix : Head → List Digest → Digest} :
    {Place : Type} → FormulaStore Place mix → Prop where
  | empty : Built empty
  | build {Place : Type} {store : FormulaStore Place mix} {head : Head} {operands : List Place}
      {later : FormulaStore (Option Place) mix} :
      Built store → store.build head operands = .ok later → Built later

section Comparison

variable [DecidableEq Place] [DecidableEq Digest]

/-- Whether the two objects of every pair are the same formula. -/
def allSame (store : FormulaStore Place mix) : List (Place × Place) → Bool
  | [] => true
  | (left, right) :: pairs =>
    if left = right then store.allSame pairs
    else if (store.formula left).sameNode (store.formula right) = true ∧
        store.digest left = store.digest right then
      store.allSame ((store.operands left).zip (store.operands right) ++ pairs)
    else false
termination_by pairs => totalLeftSize (pairs.map (Prod.map store.formula store.formula))
decreasing_by
  · have := (store.formula left).one_le_size
    simp only [totalLeftSize, List.map_cons, totalSize_cons, Prod.map_fst]
    omega
  · have node := (store.formula left).size_eq
    have smaller := totalLeftSize_zip_le (store.formula left).children (store.formula right).children
    rw [← store.linked, ← store.linked, List.zip_map] at smaller
    rw [← store.linked] at node
    simp only [totalLeftSize, List.map_append, List.map_cons, totalSize_append, totalSize_cons,
      Prod.map_fst] at smaller ⊢
    omega

/-- Whether two objects are the same formula. -/
def same (store : FormulaStore Place mix) (left right : Place) : Bool :=
  store.allSame [(left, right)]

/-- Whether two objects are different formulas. -/
def differ (store : FormulaStore Place mix) (left right : Place) : Bool := !store.same left right

end Comparison

end FormulaStore

end ModalLanguage
