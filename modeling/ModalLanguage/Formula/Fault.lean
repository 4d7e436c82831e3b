/-
Module: ModalLanguage.Formula.Fault
Purpose: What can be wrong with a formula that is built or inspected by hand.
Main exports: Fault, Fault.message
-/
import ModalLanguage.Text.Quoted

namespace ModalLanguage

/-- A modal operator for an agent that does not exist, a predicate of nothing, a node with too few
    or too many operands, a node whose kind is not known, or a change to a node that is built. -/
inductive Fault where
  | unknownAgent (name : String)
  | noArguments (predicate : String)
  | wrongOperands (kind : String)
  | unknownNode (kind : String)
  | immutable (kind : String)
deriving DecidableEq, Repr

namespace Fault

/-- The message of a fault. -/
def message : Fault → String
  | unknownAgent name => s!"Unknown agent {quoted name}; expected one of a, b, c, d"
  | noArguments predicate => s!"Predicate {quoted predicate} requires at least one argument"
  | wrongOperands kind => s!"{kind} nodes take another number of operands"
  | unknownNode kind => s!"Unknown formula node: {kind}"
  | immutable kind => s!"{kind} nodes are immutable"

end Fault

end ModalLanguage
