/-
Module: ModalLanguage.Formula.Flattened
Purpose: Formulas with their chains made flat: a conjunction whose left operand is a conjunction
  becomes one node with the operands of both, and so for disjunctions. Right operands and other
  connectives stay as they are. The height of the flat tree is what nesting measures.
Main exports: FlatTree, FlatTree.height, FlatTree.join, Formula.leftChain, Formula.flatten
-/
import ModalLanguage.Formula.Basic

namespace ModalLanguage

/-- Trees with any number of children, where a node may be marked by a connective. -/
inductive FlatTree where
  | node (mark : Option Connective) (children : List FlatTree)

namespace FlatTree

mutual

/-- The number of nodes on the longest path from the root to a leaf. -/
def height : FlatTree → Nat
  | node _ children => greatestHeight children + 1

/-- The greatest height in a list of trees. -/
def greatestHeight : List FlatTree → Nat
  | [] => 0
  | child :: children => max child.height (greatestHeight children)

end

/-- The mark of the root. -/
def mark : FlatTree → Option Connective
  | node mark _ => mark

/-- The children of the root. -/
def children : FlatTree → List FlatTree
  | node _ children => children

/-- A tree without children. -/
def leaf : FlatTree := node none []

/-- Join two trees by a connective. A left tree that continues a chain of conjunctions, or of
    disjunctions, takes the right one as its last child. -/
def join (op : Connective) (left right : FlatTree) : FlatTree :=
  if (op = .conjunction ∨ op = .disjunction) ∧ left.mark = some op then
    node (some op) (left.children ++ [right])
  else node (some op) [left, right]

end FlatTree

namespace Formula

/-- The operands of the longest chain of a connective that ends in a formula, from the left: those of
    its left operand and its right operand when the connective is at its root, and otherwise the
    formula alone. -/
def leftChain (op : Connective) : Formula → List Formula
  | binary op' left right =>
    if op' = op then left.leftChain op ++ [right] else [binary op' left right]
  | f => [f]

/-- A formula with its chains made flat. -/
def flatten : Formula → FlatTree
  | atom _ => .leaf
  | constant _ => .leaf
  | predicate _ _ _ => .leaf
  | foreign _ _ => .leaf
  | negation operand => .node none [operand.flatten]
  | modal _ _ operand => .node none [operand.flatten]
  | quantified _ _ operand => .node none [operand.flatten]
  | binary op left right => .join op left.flatten right.flatten

end Formula

end ModalLanguage
