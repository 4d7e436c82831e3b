/-
Module: ModalLanguage.Facts
Purpose: What can be told about a formula: its measures and names, its subformulas, how it compares
  with another value, and whether its canonical text reads back.
Main exports: Facts, Formula.facts, Formula.readsBack, Survey, Formula.survey, Value, Comparison,
  Formula.compare, Formula.equalsValue
-/
import ModalLanguage.Formula.ModalDepth
import ModalLanguage.Formula.Printer
import ModalLanguage.Formula.Vocabulary
import ModalLanguage.Parser.Basic

namespace ModalLanguage

/-- The facts about a formula. The subformulas are listed by their texts; two of one text are listed
    twice. -/
structure Facts where
  text : String
  depth : Nat
  nesting : Nat
  atoms : List String
  agents : List String
  predicates : List String
  modalDepth : Except Fault Nat
  subformulas : List String

namespace Formula

/-- The facts about a formula. -/
def facts (f : Formula) : Facts where
  text := f.render
  depth := f.depth
  nesting := f.nesting
  atoms := f.atoms
  agents := f.agents
  predicates := f.predicates
  modalDepth := f.modalDepth
  subformulas := sortTexts (f.subformulas.toList.map render)

/-- Whether a parser reads the canonical text of a formula as the formula, or why it cannot. -/
def readsBack (p : Parser) (f : Formula) : Except Error Bool :=
  (p.parse f.render).map fun g => g == f

end Formula

/-- The facts about a formula whose text is long: names are counted, and of the text only the length
    and both ends are shown. -/
structure Survey where
  depth : Nat
  nesting : Nat
  atoms : Nat
  agents : Nat
  predicates : Nat
  subformulas : Nat
  modalDepth : Except Fault Nat
  length : Nat
  start : String
  finish : String
  readsBack : Except Error Bool

/-- How many characters of a long text are shown at each end. -/
def shownEnd : Nat := 40

namespace Formula

/-- The survey of a formula, with the parser that reads its text back. -/
def survey (p : Parser) (f : Formula) : Survey :=
  let text := f.render.toList
  { depth := f.depth
    nesting := f.nesting
    atoms := f.atoms.length
    agents := f.agents.length
    predicates := f.predicates.length
    subformulas := f.subformulas.size
    modalDepth := f.modalDepth
    length := text.length
    start := String.ofList (text.take shownEnd)
    finish := String.ofList (text.drop (text.length - shownEnd))
    readsBack := f.readsBack p }

end Formula

/-- What a formula can be compared with: a formula or a plain value. -/
inductive Value where
  | formula (value : Formula)
  | plain (value : Datum)

/-- The outcome of a comparison. The digests are compared when the values are equal. -/
structure Comparison where
  isEqual : Bool
  distinct : Nat
  digestsAgree : Option Bool
deriving DecidableEq, Repr

namespace Formula

/-- Compare two formulas, and count how many different ones they are. -/
def compare (f g : Formula) : Comparison where
  isEqual := f == g
  distinct := (Std.HashSet.ofList [f, g]).size
  digestsAgree := if f == g then some (f.digest == g.digest) else none

/-- A formula equals formulas only: no plain value is one. -/
def equalsValue (f : Formula) : Value → Bool
  | .formula g => f == g
  | .plain _ => false

end Formula

end ModalLanguage
