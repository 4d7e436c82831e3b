/-
Module: ModalLanguage.Formula.Head
Purpose: Formulas as lists of nodes. A head is a node without its operands, as it is written down by
  hand: its agent is any name and its arguments are any list. A list of heads names a node before
  its operands, the left one first. It is read from its end, so that the operands of a node are at
  hand when the node is built.
Main exports: Head, Head.build, Formula.head, Head.build_eq_ok_iff, Formula.heads, Formula.ofHeads
-/
import ModalLanguage.Datum
import ModalLanguage.Formula.Basic
import ModalLanguage.Formula.Fault

namespace ModalLanguage

/-- A node without its operands. The text of a foreign leaf may be left out. -/
inductive Head where
  | atom (name : String)
  | constant (value : Bool)
  | predicate (name : String) (arguments : List String)
  | foreign (kind : String) (text : optParam String "?")
  | negation
  | modal (op : Modality) (agent : Option String)
  | quantified (op : Quantifier) (bound : String)
  | binary (op : Connective)
deriving DecidableEq, Repr

namespace Head

/-- The name of a kind of node. -/
def kind : Head → String
  | atom _ => "Atom"
  | constant _ => "Constant"
  | predicate _ _ => "Predicate"
  | foreign kind _ => kind
  | negation => "Negation"
  | modal .box _ => "Box"
  | modal .diamond _ => "Diamond"
  | quantified .universal _ => "Forall"
  | quantified .existential _ => "Exists"
  | binary .conjunction => "Conjunction"
  | binary .disjunction => "Disjunction"
  | binary .implication => "Implication"
  | binary .biconditional => "Biconditional"

/-- The operators, each by the name of its kind and its symbol. -/
def operators : List (String × String) :=
  [(negation.kind, negationSymbol), ((modal .box none).kind, Modality.box.symbol),
    ((modal .diamond none).kind, Modality.diamond.symbol),
    ((quantified .universal "").kind, Quantifier.universal.symbol),
    ((quantified .existential "").kind, Quantifier.existential.symbol)] ++
    Connective.all.map fun op => ((binary op).kind, op.symbol)

/-- The number of operands of a node. -/
def arity : Head → Nat
  | atom _ => 0
  | constant _ => 0
  | predicate _ _ => 0
  | foreign _ _ => 0
  | negation => 1
  | modal _ _ => 1
  | quantified _ _ => 1
  | binary _ => 2

/-- The agent of a name, where there may be no name. -/
def readAgent (name : Option String) : Except Fault (Option Agent) :=
  match name with
  | none => .ok none
  | some name =>
    match Agent.ofName? name with
    | some agent => .ok (some agent)
    | none => .error (.unknownAgent name)

/-- Build a node over its operands. -/
def build : Head → List Formula → Except Fault Formula
  | atom name, [] => .ok (.atom name)
  | constant value, [] => .ok (.constant value)
  | predicate name [], [] => .error (.noArguments name)
  | predicate name (first :: rest), [] => .ok (.predicate name first rest)
  | foreign kind text, [] => .ok (.foreign kind text)
  | negation, [operand] => .ok (.negation operand)
  | modal op agent, [operand] => (readAgent agent).map fun agent => .modal op agent operand
  | quantified op bound, [operand] => .ok (.quantified op bound operand)
  | binary op, [left, right] => .ok (.binary op left right)
  | head, _ => .error (.wrongOperands head.kind)

end Head

namespace Formula

/-- The node at the root. -/
def head : Formula → Head
  | atom name => .atom name
  | constant value => .constant value
  | predicate name first rest => .predicate name (first :: rest)
  | foreign kind text => .foreign kind text
  | negation _ => .negation
  | modal op agent _ => .modal op (agent.map Agent.name)
  | quantified op bound _ => .quantified op bound
  | binary op _ _ => .binary op

/-- A formula is built again from its head and its operands. -/
theorem build_head (f : Formula) : f.head.build f.children = .ok f := by
  cases f with
  | modal op agent operand =>
    cases agent with
    | none => rfl
    | some agent =>
      simp [head, children, Head.build, Head.readAgent, Agent.ofName?_name, Except.map]
  | _ => rfl

end Formula

namespace Head

/-- The agent that is read has the name that was given, and there is none when none was given. -/
theorem map_name_of_readAgent {name : Option String} {agent : Option Agent}
    (read : readAgent name = .ok agent) : agent.map Agent.name = name := by
  cases name with
  | none =>
      cases read
      rfl
  | some name =>
      rw [readAgent] at read
      split at read
      · next agent' found =>
          cases read
          exact congrArg some (Agent.name_of_ofName? found)
      · cases read

/-- A node that is built stands at the root of the formula, over the operands that were given. -/
theorem build_eq_ok_iff {head : Head} {operands : List Formula} {f : Formula} :
    head.build operands = .ok f ↔ f.head = head ∧ f.children = operands := by
  constructor
  · intro built
    unfold build at built
    split at built
    case h_3 | h_10 => cases built
    case h_7 op agent operand =>
      cases read : readAgent agent with
      | error fault =>
          rw [read] at built
          cases built
      | ok agent' =>
          rw [read] at built
          cases built
          exact ⟨congrArg (Head.modal op) (map_name_of_readAgent read), rfl⟩
    all_goals
      cases built
      exact ⟨rfl, rfl⟩
  · rintro ⟨rfl, rfl⟩
    exact f.build_head

end Head

namespace Formula

/-- The heads of all formulas of a worklist, behind those written before, which are given last
    first. -/
def writeHeads (written : List Head) : List Formula → List Head
  | [] => written.reverse
  | f :: work => writeHeads (f.head :: written) (f.children ++ work)
termination_by work => totalSize work
decreasing_by
  have := f.size_eq
  simp only [totalSize_append, totalSize_cons]
  omega

/-- The nodes of a formula, each before its operands. -/
def heads (f : Formula) : List Head := writeHeads [] [f]

/-- Put a node in front of the formulas that are built: it takes its operands from them. -/
def pushHead (built : List Formula) (head : Head) : Except Fault (List Formula) :=
  (head.build (built.take head.arity)).map fun f => f :: built.drop head.arity

/-- Read a list of nodes, from its end to its start. Of several faults the last in the list is met
    first. -/
def ofHeads (heads : List Head) : Except Fault Formula :=
  match heads.reverse.foldlM pushHead [] with
  | .error fault => .error fault
  | .ok [f] => .ok f
  | .ok _ => .error (.wrongOperands ((heads.head?.map Head.kind).getD ""))

/-- A change to a node: to one of its fields, by name. -/
inductive Change where
  | set (field : String) (value : Datum)
  | delete (field : String)

/-- Formulas never change: whatever the change, it is refused. -/
def change (f : Formula) (_ : Change) : Except Fault Formula :=
  .error (.immutable f.head.kind)

end Formula

end ModalLanguage
