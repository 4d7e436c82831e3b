/-
Module: ModalLanguage.Formula.Basic
Purpose: Formulas of modal and epistemic logic. A formula is a finite tree that never changes. It
  carries four measures that are fixed when it is built: its depth, the connective at its root, its
  nesting, and a digest that tells most unequal formulas apart at once. Nesting is depth that does
  not count the links of a chain: a conjunction directly left under a conjunction stands level with
  it, and so with disjunctions.
Main exports: Modality, Quantifier, Connective, Agent, Formula, Formula.depth, Formula.nesting,
  Formula.digest, Formula.children, Formula.children_induction, Formula.size, totalSize
-/

namespace ModalLanguage

/-- The symbol of negation in canonical text. -/
def negationSymbol : String := "¬"

/-- The two modal operators: necessity and possibility. -/
inductive Modality where
  | box
  | diamond
deriving DecidableEq, Repr

namespace Modality

/-- The symbol of a modal operator in canonical text. -/
def symbol : Modality → String
  | box => "□"
  | diamond => "◊"

end Modality

/-- The two quantifiers. -/
inductive Quantifier where
  | universal
  | existential
deriving DecidableEq, Repr

namespace Quantifier

/-- The symbol of a quantifier in canonical text. -/
def symbol : Quantifier → String
  | universal => "∀"
  | existential => "∃"

end Quantifier

/-- The four binary connectives, from the one that binds most tightly. -/
inductive Connective where
  | conjunction
  | disjunction
  | implication
  | biconditional
deriving DecidableEq, Repr

namespace Connective

/-- Every connective, from the one that binds most tightly. -/
def all : List Connective := [conjunction, disjunction, implication, biconditional]

/-- The symbol of a connective in canonical text. -/
def symbol : Connective → String
  | conjunction => "∧"
  | disjunction => "∨"
  | implication => "→"
  | biconditional => "↔"

/-- The connectives that group to the left, so that a row of them is one chain. -/
def chains : Connective → Bool
  | conjunction => true
  | disjunction => true
  | implication => false
  | biconditional => false

end Connective

/-- The agents whose knowledge an indexed modal operator speaks of. -/
inductive Agent where
  | a
  | b
  | c
  | d
deriving DecidableEq, Repr

namespace Agent

/-- Every agent, in the order of their names. -/
def all : List Agent := [a, b, c, d]

/-- The name of an agent. -/
def name : Agent → String
  | a => "a"
  | b => "b"
  | c => "c"
  | d => "d"

/-- The agent of a name. -/
def ofName? (name : String) : Option Agent :=
  all.find? fun agent => agent.name = name

theorem ofName?_name (agent : Agent) : ofName? agent.name = some agent := by
  cases agent <;> decide

theorem name_of_ofName? {name : String} {agent : Agent} (h : ofName? name = some agent) :
    agent.name = name := by
  simpa using List.find?_some h

end Agent

/-- Formulas. A predicate has at least one argument, and an agent is one of the four. A foreign leaf
    stands for something from outside the language: the name of its kind and its text are known. -/
inductive Formula where
  | atom (name : String)
  | constant (value : Bool)
  | predicate (name first : String) (rest : List String)
  | foreign (kind text : String)
  | negation (operand : Formula)
  | modal (op : Modality) (agent : Option Agent) (operand : Formula)
  | quantified (op : Quantifier) (bound : String) (operand : Formula)
  | binary (op : Connective) (left right : Formula)
with
  /-- The number of nodes on the longest path from the root to a leaf. -/
  @[computed_field] depth : Formula → Nat
    | .atom _ => 1
    | .constant _ => 1
    | .predicate _ _ _ => 1
    | .foreign _ _ => 1
    | .negation operand => operand.depth + 1
    | .modal _ _ operand => operand.depth + 1
    | .quantified _ _ operand => operand.depth + 1
    | .binary _ left right => max left.depth right.depth + 1
  /-- The connective at the root. -/
  @[computed_field] root : Formula → Option Connective
    | .atom _ => none
    | .constant _ => none
    | .predicate _ _ _ => none
    | .foreign _ _ => none
    | .negation _ => none
    | .modal _ _ _ => none
    | .quantified _ _ _ => none
    | .binary op _ _ => some op
  /-- The depth, where a left operand that continues a chain stands level with its connective. -/
  @[computed_field] nesting : Formula → Nat
    | .atom _ => 1
    | .constant _ => 1
    | .predicate _ _ _ => 1
    | .foreign _ _ => 1
    | .negation operand => operand.nesting + 1
    | .modal _ _ operand => operand.nesting + 1
    | .quantified _ _ operand => operand.nesting + 1
    | .binary op left right =>
      max (if op.chains && left.root == some op then left.nesting else left.nesting + 1)
        (right.nesting + 1)
  /-- A number that equal formulas share. -/
  @[computed_field] digest : Formula → UInt64
    | .atom name => mixHash 1 (hash name)
    | .constant value => mixHash 2 (hash value)
    | .predicate name first rest => mixHash 3 (mixHash (hash name) (hash (first :: rest)))
    | .foreign kind _ => mixHash 4 (hash kind)
    | .negation operand => mixHash 5 operand.digest
    | .modal op agent operand =>
      mixHash 6 (mixHash (mixHash (hash op.symbol) (hash (agent.map Agent.name))) operand.digest)
    | .quantified op bound operand =>
      mixHash 7 (mixHash (mixHash (hash op.symbol) (hash bound)) operand.digest)
    | .binary op left right =>
      mixHash 8 (mixHash (hash op.symbol) (mixHash left.digest right.digest))
deriving DecidableEq, Repr

namespace Formula

/-- The direct operands, left to right. -/
def children : Formula → List Formula
  | atom _ => []
  | constant _ => []
  | predicate _ _ _ => []
  | foreign _ _ => []
  | negation operand => [operand]
  | modal _ _ operand => [operand]
  | quantified _ _ operand => [operand]
  | binary _ left right => [left, right]

theorem mem_children_binary {op : Connective} {left right f : Formula} :
    f ∈ (binary op left right).children ↔ f = left ∨ f = right := by
  simp [children]

/-- What holds of a formula whenever it holds of its operands holds of every formula. -/
@[elab_as_elim]
theorem children_induction {motive : Formula → Prop}
    (node : ∀ f, (∀ operand ∈ f.children, motive operand) → motive f) (f : Formula) :
    motive f := by
  induction f with
  | atom | constant | predicate | foreign => exact node _ nofun
  | negation operand ih | modal op agent operand ih | quantified op bound operand ih =>
    exact node _ (List.forall_mem_singleton.2 ih)
  | binary op left right ihLeft ihRight =>
    exact node _ (List.forall_mem_cons.2 ⟨ihLeft, List.forall_mem_singleton.2 ihRight⟩)

/-- The number of nodes. -/
def size : Formula → Nat
  | atom _ => 1
  | constant _ => 1
  | predicate _ _ _ => 1
  | foreign _ _ => 1
  | negation operand => operand.size + 1
  | modal _ _ operand => operand.size + 1
  | quantified _ _ operand => operand.size + 1
  | binary _ left right => left.size + right.size + 1

end Formula

/-- The number of nodes of all formulas of a list. It bounds every walk that keeps its open work in
    a list. -/
def totalSize : List Formula → Nat
  | [] => 0
  | f :: work => f.size + totalSize work

@[simp] theorem totalSize_nil : totalSize [] = 0 := rfl

@[simp] theorem totalSize_cons (f : Formula) (work : List Formula) :
    totalSize (f :: work) = f.size + totalSize work := rfl

@[simp] theorem totalSize_append (first second : List Formula) :
    totalSize (first ++ second) = totalSize first + totalSize second := by
  induction first with
  | nil => simp
  | cons f first ih => simp [ih, Nat.add_assoc]

theorem size_le_totalSize {f : Formula} {work : List Formula} (member : f ∈ work) :
    f.size ≤ totalSize work := by
  induction work with
  | nil => cases member
  | cons g work ih =>
    rw [totalSize_cons]
    rcases List.mem_cons.1 member with rfl | behind
    · omega
    · have := ih behind
      omega

namespace Formula

/-- A formula is one node and its operands. -/
theorem size_eq (f : Formula) : f.size = totalSize f.children + 1 := by
  cases f <;> simp [size, children]

theorem one_le_size (f : Formula) : 1 ≤ f.size := by
  rw [size_eq]
  omega

theorem size_lt_of_mem_children {f operand : Formula} (member : operand ∈ f.children) :
    operand.size < f.size := by
  rw [f.size_eq]
  exact Nat.lt_succ_of_le (size_le_totalSize member)

end Formula

end ModalLanguage
