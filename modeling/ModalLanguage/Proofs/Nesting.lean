/-
Module: ModalLanguage.Proofs.Nesting
Purpose: What nesting measures. It is defined link by link: a left operand that continues a chain
  stands level with its connective. Seen from the whole formula it is the height of the tree in
  which every chain is one node (`nesting_eq_height_flatten`); the induction goes through because
  the mark of a flat tree is the connective at the root of the formula, and joining one more operand
  to a marked tree adds a child to its root. So nesting grows towards the root, it is never more
  than depth, and it is less only where a chain has a link.
Main exports: Formula.nesting_le_of_mem_children, Formula.Subformula.nesting_le,
  Connective.chains_iff, FlatTree.height_join, Formula.mark_flatten,
  Formula.nesting_eq_height_flatten, Formula.flatten_binary_of_chains, Formula.HasLink,
  Formula.nesting_eq_depth, Formula.nesting_is_height_of_flat_tree
-/
import ModalLanguage.Formula.Flattened
import ModalLanguage.Formula.Subformula

namespace ModalLanguage

/-! ### Operands and connectives -/

/-- Conjunctions and disjunctions make chains. -/
theorem Connective.chains_iff (op : Connective) :
    op.chains = true ↔ op = .conjunction ∨ op = .disjunction := by
  cases op <;> decide

namespace Formula

theorem one_le_nesting (f : Formula) : 1 ≤ f.nesting := by
  cases f <;> simp only [nesting] <;> omega

theorem nesting_left_le (op : Connective) (left right : Formula) :
    left.nesting ≤ (binary op left right).nesting := by
  simp only [nesting]
  split <;> omega

theorem nesting_right_le (op : Connective) (left right : Formula) :
    right.nesting ≤ (binary op left right).nesting := by
  simp only [nesting]
  omega

/-- A connective adds one level at most to the deeper one of its operands. -/
theorem nesting_binary_le {op : Connective} {left right : Formula} {bound : Nat}
    (within : left.nesting ≤ bound) (within' : right.nesting ≤ bound) :
    (binary op left right).nesting ≤ bound + 1 := by
  simp only [nesting]
  split <;> omega

theorem nesting_le_of_mem_children {f g : Formula} (member : g ∈ f.children) :
    g.nesting ≤ f.nesting := by
  cases f with
  | atom | constant | predicate | foreign => cases member
  | negation operand | modal op agent operand | quantified op bound operand =>
      obtain rfl := List.mem_singleton.1 member
      exact Nat.le_succ _
  | binary op left right =>
      rcases mem_children_binary.1 member with rfl | rfl
      · exact nesting_left_le op _ _
      · exact nesting_right_le op _ _

theorem Subformula.nesting_le {f g : Formula} (inside : g.Subformula f) :
    g.nesting ≤ f.nesting := by
  induction inside with
  | self => exact Nat.le_refl _
  | operand member inside ih => exact Nat.le_trans ih (nesting_le_of_mem_children member)

theorem nesting_le_depth (f : Formula) : f.nesting ≤ f.depth := by
  induction f with
  | atom | constant | predicate | foreign => exact Nat.le_refl 1
  | negation operand ih | modal op agent operand ih | quantified op bound operand ih =>
      exact Nat.succ_le_succ ih
  | binary op left right ihLeft ihRight =>
      have within := Nat.le_trans ihLeft (Nat.le_max_left left.depth right.depth)
      have within' := Nat.le_trans ihRight (Nat.le_max_right left.depth right.depth)
      exact nesting_binary_le within within'

end Formula

/-! ### Flat trees -/

namespace FlatTree

/-- A tree that was joined by a connective is marked by it. -/
theorem mark_join (op : Connective) (left right : FlatTree) :
    (join op left right).mark = some op := by
  unfold join
  split <;> rfl

theorem greatestHeight_append (first second : List FlatTree) :
    greatestHeight (first ++ second) = max (greatestHeight first) (greatestHeight second) := by
  induction first with
  | nil => simp [greatestHeight]
  | cons child first ih => rw [List.cons_append, greatestHeight, greatestHeight, ih, Nat.max_assoc]

theorem height_eq (t : FlatTree) : t.height = greatestHeight t.children + 1 := by
  cases t
  rw [height, children]

/-- A tree that continues a chain stands level with the joined one, and any other tree one below
    it. -/
theorem height_join (op : Connective) (left right : FlatTree) :
    (join op left right).height =
      max
        (if (op = .conjunction ∨ op = .disjunction) ∧ left.mark = some op then left.height
          else left.height + 1)
        (right.height + 1) := by
  unfold join
  split
  · rw [height, greatestHeight_append, left.height_eq, greatestHeight, greatestHeight]
    omega
  · rw [height, greatestHeight, greatestHeight, greatestHeight]
    omega

end FlatTree

namespace Formula

/-- Only a connective marks a flat tree, and it is the one at the root of the formula. -/
theorem mark_flatten (f : Formula) : f.flatten.mark = f.root := by
  cases f with
  | binary op left right => exact FlatTree.mark_join op left.flatten right.flatten
  | _ => rfl

/-- Nesting is the height of the tree in which chains are flat. -/
theorem nesting_eq_height_flatten (f : Formula) : f.nesting = f.flatten.height := by
  induction f with
  | atom | constant | predicate | foreign => rfl
  | negation operand ih | modal op agent operand ih | quantified op bound operand ih =>
      rw [nesting, ih, flatten, FlatTree.height, FlatTree.greatestHeight, FlatTree.greatestHeight,
        Nat.max_zero]
  | binary op left right ihLeft ihRight =>
      rw [nesting, ihLeft, ihRight, flatten, FlatTree.height_join, mark_flatten]
      simp only [Bool.and_eq_true, beq_iff_eq, op.chains_iff]

theorem leftChain_of_root_ne {op : Connective} {f : Formula} (apart : f.root ≠ some op) :
    f.leftChain op = [f] := by
  cases f with
  | binary op' left right => exact if_neg fun same => apart (congrArg some same)
  | _ => rfl

/-- A formula with a chain that ends in it has a flat tree with one child for each operand of the
    chain. -/
theorem children_flatten_of_root {op : Connective}
    (chains : op = .conjunction ∨ op = .disjunction) {f : Formula} (root : f.root = some op) :
    f.flatten.children = (f.leftChain op).map flatten := by
  induction f with
  | binary op' left right ihLeft ihRight =>
      cases root
      rw [flatten, FlatTree.join, mark_flatten, leftChain, if_pos rfl, List.map_append]
      by_cases continues : left.root = some op
      · rw [if_pos ⟨chains, continues⟩, ← ihLeft continues]
        rfl
      · rw [if_neg fun both => continues both.2, leftChain_of_root_ne continues]
        rfl
  | _ => cases root

/-- A connective that chains makes one node of its whole chain. -/
theorem flatten_binary_of_chains {op : Connective}
    (chains : op = .conjunction ∨ op = .disjunction) (left right : Formula) :
    (binary op left right).flatten =
      .node (some op) (((binary op left right).leftChain op).map flatten) := by
  have mark := (binary op left right).mark_flatten
  have children := (binary op left right).children_flatten_of_root chains rfl
  generalize (binary op left right).flatten = t at mark children ⊢
  obtain ⟨tMark, tChildren⟩ := t
  cases mark
  cases children
  rfl

/-- Any other connective makes a node of its two operands. -/
theorem flatten_binary_of_not_chains {op : Connective}
    (apart : ¬ (op = .conjunction ∨ op = .disjunction)) (left right : Formula) :
    (binary op left right).flatten = .node (some op) [left.flatten, right.flatten] := by
  rw [flatten, FlatTree.join, if_neg fun both => apart both.1]

/-! ### Links -/

/-- Somewhere a conjunction stands directly left under a conjunction, or a disjunction under a
    disjunction. -/
def HasLink (f : Formula) : Prop :=
  ∃ (op : Connective) (first second third : Formula), (op = .conjunction ∨ op = .disjunction) ∧
    (binary op (binary op first second) third).Subformula f

theorem exists_binary_of_root {op : Connective} {f : Formula} (root : f.root = some op) :
    ∃ left right, f = binary op left right := by
  cases f with
  | binary op' left right =>
      cases root
      exact ⟨left, right, rfl⟩
  | _ => cases root

theorem HasLink.of_mem_children {f operand : Formula} (member : operand ∈ f.children)
    (link : operand.HasLink) : f.HasLink := by
  obtain ⟨op, first, second, third, chains, inside⟩ := link
  exact ⟨op, first, second, third, chains, .operand member inside⟩

/-- Where no chain has a link every operator counts, and nesting is depth. -/
theorem nesting_eq_depth {f : Formula} (plain : ¬ f.HasLink) : f.nesting = f.depth := by
  induction f with
  | atom | constant | predicate | foreign => rfl
  | negation operand ih | modal op agent operand ih | quantified op bound operand ih =>
      have below := ih fun link => plain (link.of_mem_children (List.mem_singleton_self _))
      rw [nesting, depth, below]
  | binary op left right ihLeft ihRight =>
      have inLeft := ihLeft fun link => plain (link.of_mem_children List.mem_cons_self)
      have inRight := ihRight fun link =>
        plain (link.of_mem_children (List.mem_cons_of_mem _ (List.mem_singleton_self _)))
      have apart : ¬ (op.chains && left.root == some op) = true := by
        rw [Bool.and_eq_true, beq_iff_eq, op.chains_iff]
        rintro ⟨chains, root⟩
        obtain ⟨first, second, rfl⟩ := exists_binary_of_root root
        exact plain ⟨op, first, second, right, chains, .self⟩
      rw [nesting, depth, if_neg apart, inLeft, inRight]
      omega

/-- Nesting is the height of the tree in which each chain of conjunctions, and each of disjunctions,
    is one node, and other connectives join just two operands. So no operand is nested more deeply
    than its formula, and no formula more deeply than its depth; it is nested less deeply than that
    only where a chain has a link. -/
theorem nesting_is_height_of_flat_tree :
    (∀ (op : Connective) (left right : Formula), (binary op left right).flatten =
      .node (some op)
        (if op = .conjunction ∨ op = .disjunction then
          ((binary op left right).leftChain op).map flatten
        else [left.flatten, right.flatten])) ∧
      ∀ f : Formula, f.nesting = f.flatten.height ∧
        (∀ child ∈ f.children, child.nesting ≤ f.nesting) ∧ f.nesting ≤ f.depth ∧
        (¬ f.HasLink → f.nesting = f.depth) := by
  constructor
  · intro op left right
    split
    · next chains => exact flatten_binary_of_chains chains left right
    · next apart => exact flatten_binary_of_not_chains apart left right
  · intro f
    exact ⟨f.nesting_eq_height_flatten, fun child => nesting_le_of_mem_children,
      f.nesting_le_depth, nesting_eq_depth⟩

end Formula

end ModalLanguage
