/-
Module: ModalLanguage.Formula.Printer
Purpose: Canonical text. Every binary formula is bracketed. The operand of a modal operator or of a
  quantifier is bracketed when it is a negation or a foreign leaf, and stands bare otherwise; the
  operand of a negation stands bare. A foreign leaf has a text of its own. The text is defined by
  recursion on the formula, and written without recursion by a stack of open pieces, so that
  formulas of any depth can be written.
Main exports: Formula.canonical, Piece, Formula.pieces, Formula.render
-/
import ModalLanguage.Formula.Basic

namespace ModalLanguage

namespace Formula

/-- Whether a formula is bracketed as the operand of a modal operator or of a quantifier. -/
def isBracketed : Formula → Bool
  | negation _ => true
  | foreign _ _ => true
  | _ => false

/-- The text in front of the operand of a modal operator. -/
def modalText (op : Modality) (agent : Option Agent) : String :=
  match agent with
  | some agent => op.symbol ++ "_" ++ agent.name ++ " "
  | none => op.symbol

/-- The text in front of the operand of a quantifier. -/
def quantifierText (op : Quantifier) (bound : String) : String :=
  op.symbol ++ bound ++ " "

/-- The text of a predicate with its arguments. -/
def predicateText (name first : String) (rest : List String) : String :=
  name ++ "(" ++ ", ".intercalate (first :: rest) ++ ")"

/-- The text of a truth value. -/
def constantText (value : Bool) : String := if value then "⊤" else "⊥"

/-- Canonical text, by recursion. -/
def canonical : Formula → String
  | atom name => name
  | constant value => constantText value
  | predicate name first rest => predicateText name first rest
  | foreign _ text => text
  | negation operand => negationSymbol ++ operand.canonical
  | modal op agent operand =>
    modalText op agent ++
      if operand.isBracketed then "(" ++ operand.canonical ++ ")" else operand.canonical
  | quantified op bound operand =>
    quantifierText op bound ++
      if operand.isBracketed then "(" ++ operand.canonical ++ ")" else operand.canonical
  | binary op left right =>
    "(" ++ left.canonical ++ " " ++ op.symbol ++ " " ++ right.canonical ++ ")"

end Formula

/-- A piece of text that is still to be written: a text as it is, or a formula. -/
inductive Piece where
  | text (value : String)
  | formula (value : Formula)
deriving DecidableEq, Repr

/-- The number of nodes of all formulas among the pieces. -/
def totalPieceSize : List Piece → Nat
  | [] => 0
  | .text _ :: work => totalPieceSize work
  | .formula value :: work => value.size + totalPieceSize work

theorem totalPieceSize_append (first second : List Piece) :
    totalPieceSize (first ++ second) = totalPieceSize first + totalPieceSize second := by
  induction first with
  | nil => simp [totalPieceSize]
  | cons piece first ih =>
    cases piece with
    | text value => simpa [totalPieceSize] using ih
    | formula value => simp [totalPieceSize, ih, Nat.add_assoc]

namespace Formula

/-- The pieces of the operand of a modal operator or of a quantifier. -/
def operandPieces (operand : Formula) : List Piece :=
  if operand.isBracketed then [.text "(", .formula operand, .text ")"] else [.formula operand]

/-- A formula as its own text and its operands, in order. -/
def pieces : Formula → List Piece
  | atom name => [.text name]
  | constant value => [.text (constantText value)]
  | predicate name first rest => [.text (predicateText name first rest)]
  | foreign _ text => [.text text]
  | negation operand => [.text negationSymbol, .formula operand]
  | modal op agent operand => .text (modalText op agent) :: operandPieces operand
  | quantified op bound operand => .text (quantifierText op bound) :: operandPieces operand
  | binary op left right =>
    [.text "(", .formula left, .text (" " ++ op.symbol ++ " "), .formula right, .text ")"]

/-- Taking a formula to pieces removes one node. -/
theorem totalPieceSize_pieces (f : Formula) : totalPieceSize f.pieces + 1 = f.size := by
  cases f with
  | modal op agent operand =>
    by_cases h : operand.isBracketed <;> simp [pieces, operandPieces, h, totalPieceSize, size]
  | quantified op bound operand =>
    by_cases h : operand.isBracketed <;> simp [pieces, operandPieces, h, totalPieceSize, size]
  | _ => simp [pieces, totalPieceSize, size]

end Formula

/-- Write the pieces behind what is written already. -/
def writePieces (written : String) : List Piece → String
  | [] => written
  | .text value :: work => writePieces (written ++ value) work
  | .formula value :: work => writePieces written (value.pieces ++ work)
termination_by work => (totalPieceSize work, work.length)
decreasing_by
  · simp [totalPieceSize, Prod.lex_def]
  · have := value.totalPieceSize_pieces
    simp only [totalPieceSize_append, totalPieceSize, Prod.lex_def]
    omega

namespace Formula

/-- Canonical text, written with a stack of pieces. -/
def render (f : Formula) : String := writePieces "" [.formula f]

end Formula

end ModalLanguage
