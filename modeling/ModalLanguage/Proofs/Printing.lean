/-
Module: ModalLanguage.Proofs.Printing
Purpose: Writing a formula with a stack of pieces gives its canonical text. Taking a formula to
  pieces changes nothing about the text that is still to be written, so the text is found behind
  what was written before, however the pieces came to be. Every operand is one of the pieces, so the
  text of a formula holds the texts of its operands, and of all its subformulas.
Main exports: Formula.operandText, piecesText, piecesText_pieces, writePieces_eq,
  Formula.render_eq_canonical, Formula.filterMap_formula?_pieces, Formula.enclosed,
  Formula.Subformula.canonical_occurs, Formula.render_is_recursive
-/
import ModalLanguage.Formula.Printer
import ModalLanguage.Formula.Subformula

namespace ModalLanguage

/-- The text of a piece. -/
def Piece.canonical : Piece → String
  | text value => value
  | formula value => value.canonical

/-- The text of pieces, one after another. -/
def piecesText : List Piece → String
  | [] => ""
  | piece :: work => piece.canonical ++ piecesText work

theorem piecesText_append (first second : List Piece) :
    piecesText (first ++ second) = piecesText first ++ piecesText second := by
  induction first with
  | nil => simp [piecesText]
  | cons piece first ih => simp [piecesText, ih, String.append_assoc]

/-- The text of the operand of a modal operator or of a quantifier. -/
def Formula.operandText (operand : Formula) : String :=
  if operand.isBracketed then "(" ++ operand.canonical ++ ")" else operand.canonical

theorem piecesText_operandPieces (operand : Formula) :
    piecesText operand.operandPieces = operand.operandText := by
  unfold Formula.operandPieces Formula.operandText
  split <;> simp [piecesText, Piece.canonical, String.append_assoc]

/-- The pieces of a formula make up its text. -/
theorem piecesText_pieces (f : Formula) : piecesText f.pieces = f.canonical := by
  cases f with
  | modal op agent operand | quantified op bound operand =>
      simp only [Formula.pieces, piecesText, piecesText_operandPieces, Formula.canonical,
        Piece.canonical, Formula.operandText]
  | atom | constant | predicate | foreign | negation | binary =>
      simp [Formula.pieces, piecesText, Piece.canonical, Formula.canonical, String.append_assoc]

theorem writePieces_eq (written : String) (work : List Piece) :
    writePieces written work = written ++ piecesText work := by
  fun_induction writePieces written work with
  | case1 written => simp [piecesText]
  | case2 written value work ih => rw [ih, piecesText, Piece.canonical, String.append_assoc]
  | case3 written value work ih =>
      rw [ih, piecesText_append, piecesText_pieces, piecesText, Piece.canonical]

/-- What the stack of pieces writes is the text defined by recursion. -/
theorem Formula.render_eq_canonical (f : Formula) : f.render = f.canonical := by
  simp [render, writePieces_eq, piecesText, Piece.canonical]

/-! ### What the text is made of -/

/-- The formula that a piece stands for. A text stands for itself. -/
def Piece.formula? : Piece → Option Formula
  | text _ => none
  | formula value => some value

namespace Formula

theorem filterMap_formula?_operandPieces (operand : Formula) :
    operand.operandPieces.filterMap Piece.formula? = [operand] := by
  unfold operandPieces
  split <;> rfl

/-- The formulas among the pieces are the operands, left to right. -/
theorem filterMap_formula?_pieces (f : Formula) :
    f.pieces.filterMap Piece.formula? = f.children := by
  cases f with
  | modal op agent operand | quantified op bound operand =>
      exact filterMap_formula?_operandPieces operand
  | atom | constant | predicate | foreign | negation | binary => rfl

theorem mem_pieces_of_mem_children {f operand : Formula} (member : operand ∈ f.children) :
    .formula operand ∈ f.pieces := by
  rw [← filterMap_formula?_pieces] at member
  obtain ⟨piece, isPiece, found⟩ := List.mem_filterMap.1 member
  cases piece with
  | text value => cases found
  | formula value =>
      cases found
      exact isPiece

/-- The text of an operand is a piece of the text of the whole. -/
theorem canonical_occurs_of_mem_children {f operand : Formula} (member : operand ∈ f.children) :
    ∃ before after, f.canonical = before ++ operand.canonical ++ after := by
  obtain ⟨front, back, pieces_eq⟩ := List.append_of_mem (mem_pieces_of_mem_children member)
  refine ⟨piecesText front, piecesText back, ?_⟩
  rw [← piecesText_pieces, pieces_eq, piecesText_append, piecesText, Piece.canonical,
    String.append_assoc]

theorem Subformula.canonical_occurs {f g : Formula} (inside : g.Subformula f) :
    ∃ before after, f.canonical = before ++ g.canonical ++ after := by
  induction inside with
  | self => exact ⟨"", "", by rw [String.empty_append, String.append_empty]⟩
  | operand member inside ih =>
      obtain ⟨before, after, operand_eq⟩ := ih
      obtain ⟨front, back, whole_eq⟩ := canonical_occurs_of_mem_children member
      refine ⟨front ++ before, after ++ back, ?_⟩
      rw [whole_eq, operand_eq]
      simp only [String.append_assoc]

/-- The text of a formula as the operand of a modal operator or of a quantifier: negations and
    foreign leaves stand in brackets, all other formulas stand bare. -/
def enclosed : Formula → String
  | negation operand => "(" ++ (negation operand).render ++ ")"
  | foreign kind text => "(" ++ (foreign kind text).render ++ ")"
  | f => f.render

theorem enclosed_eq_operandText (f : Formula) : f.enclosed = f.operandText := by
  cases f with
  | negation operand | foreign kind text =>
      rw [enclosed, render_eq_canonical]
      rfl
  | atom | constant | predicate | modal | quantified | binary => exact render_eq_canonical _

/-- Writing with a stack gives the text that is defined by recursion: the texts of the node itself
    and those of its operands, one after another in the order of its pieces. As the operand of a modal
    operator or of a quantifier a formula stands in brackets just when it is a negation or a foreign
    leaf. So the text of every subformula is a piece of the text. -/
theorem render_is_recursive (f : Formula) :
    f.render = f.canonical ∧
      f.render = piecesText f.pieces ∧
      f.pieces.filterMap Piece.formula? = f.children ∧
      (∀ op agent, (modal op agent f).render = modalText op agent ++ f.enclosed) ∧
      (∀ op bound, (quantified op bound f).render = quantifierText op bound ++ f.enclosed) ∧
      ∀ g : Formula, g.Subformula f →
        ∃ before after, f.render = before ++ g.render ++ after := by
  simp only [render_eq_canonical, enclosed_eq_operandText]
  refine ⟨trivial, (piecesText_pieces f).symm, f.filterMap_formula?_pieces, ?_, ?_, ?_⟩
  · intro op agent
    rfl
  · intro op bound
    rfl
  · intro g inside
    exact inside.canonical_occurs

/-- Brackets around a negation and around a foreign leaf, and none around a modal operator. -/
example :
    (modal .box none
      (negation (modal .diamond (some .a) (modal .box none (foreign "Opaque" "?"))))).render =
        "□(¬◊_a □(?))" := by
  cbv

end Formula

end ModalLanguage
