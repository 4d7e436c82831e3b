/-
Module: ModalLanguage.Formula.Row
Purpose: Operands joined by connectives without brackets, and how they group. A row is split at its
  biconditional, then at its implications, then at its disjunctions; what is left are conjunctions.
  Implications group to the right, disjunctions and conjunctions to the left. A row with more than
  one biconditional has no grouping.
Main exports: Row, Row.split, Row.grouped?
-/
import ModalLanguage.Formula.Basic

namespace ModalLanguage

/-- Operands with connectives between them. -/
structure Row where
  first : Formula
  rest : List (Connective × Formula)
deriving DecidableEq, Repr

namespace Row

/-- Cut a row at every place where a connective stands: the first part, and the others in order. -/
def splitFrom (op : Connective) : Formula → List (Connective × Formula) → Row × List Row
  | first, [] => (⟨first, []⟩, [])
  | first, (joint, next) :: rest =>
    let (part, parts) := splitFrom op next rest
    if joint = op then (⟨first, []⟩, part :: parts)
    else (⟨first, (joint, part.first) :: part.rest⟩, parts)

/-- Cut a row at every place where a connective stands: the first part, and the others in order. -/
def split (op : Connective) (row : Row) : Row × List Row := splitFrom op row.first row.rest

/-- Group a row of conjunctions to the left. -/
def conjoin (row : Row) : Formula :=
  row.rest.foldl (fun left next => .binary .conjunction left next.2) row.first

/-- Group a row of conjunctions and disjunctions. -/
def disjoin (row : Row) : Formula :=
  let (part, parts) := row.split .disjunction
  parts.foldl (fun left next => .binary .disjunction left next.conjoin) part.conjoin

/-- Group parts to the right by implications. -/
def chainImplications : Row → List Row → Formula
  | part, [] => part.disjoin
  | part, next :: parts => .binary .implication part.disjoin (chainImplications next parts)

/-- Group a row without biconditionals. -/
def imply (row : Row) : Formula :=
  let (part, parts) := row.split .implication
  chainImplications part parts

/-- Group a row, if it has at most one biconditional. -/
def grouped? (row : Row) : Option Formula :=
  match row.split .biconditional with
  | (part, []) => some part.imply
  | (left, [right]) => some (.binary .biconditional left.imply right.imply)
  | _ => none

end Row

end ModalLanguage
