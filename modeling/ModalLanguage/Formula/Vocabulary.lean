/-
Module: ModalLanguage.Formula.Vocabulary
Purpose: The names that a formula uses, each listed once and in order: its atoms, the agents of its
  modal operators, and its predicates. A bound name or an argument is no atom by itself.
Main exports: Formula.atoms, Formula.agents, Formula.predicates
-/
import ModalLanguage.Formula.Subformula
import ModalLanguage.Text.Sorted

namespace ModalLanguage.Formula

/-- The name of an atom. -/
def atomName? : Formula → Option String
  | atom name => some name
  | _ => none

/-- The name of the agent of a modal operator. -/
def agentName? : Formula → Option String
  | modal _ agent _ => agent.map Agent.name
  | _ => none

/-- The name of a predicate. -/
def predicateName? : Formula → Option String
  | predicate name _ _ => some name
  | _ => none

/-- The names that the subformulas have of one sort. -/
def namesBy (name? : Formula → Option String) (f : Formula) : List String :=
  distinctTexts (f.subformulas.toList.filterMap name?)

/-- The names of the atoms in a formula. -/
def atoms (f : Formula) : List String := f.namesBy atomName?

/-- The names of the agents in a formula. -/
def agents (f : Formula) : List String := f.namesBy agentName?

/-- The names of the predicates in a formula. -/
def predicates (f : Formula) : List String := f.namesBy predicateName?

end ModalLanguage.Formula
