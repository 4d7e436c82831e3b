/-
Module: ModalLanguage.Text.Position
Purpose: Line and column of an offset in a text. Offsets count characters from zero, lines and
  columns count from one, and only a newline ends a line. An offset may lie past the end of the
  text: the column then keeps growing.
Main exports: Position, Position.walk, locate
-/

namespace ModalLanguage

/-- A place in a text as a reader counts it: the first character stands on line 1, column 1. -/
structure Position where
  line : Nat
  column : Nat
deriving DecidableEq, Repr

namespace Position

/-- The place of the first character of every text. -/
def start : Position := ⟨1, 1⟩

/-- The place behind one character: a newline opens the next line, any other character is one column
    wide. -/
def after (p : Position) (c : Char) : Position :=
  if c = '\n' then ⟨p.line + 1, 1⟩ else ⟨p.line, p.column + 1⟩

/-- Move `n` characters along a text. Behind the last character every step is one column. -/
def walk : List Char → Nat → Position → Position
  | [], n, p => ⟨p.line, p.column + n⟩
  | _, 0, p => p
  | c :: cs, n + 1, p => walk cs n (p.after c)

end Position

/-- The line and column of an offset. -/
def locate (text : String) (offset : Nat) : Position :=
  Position.walk text.toList offset .start

end ModalLanguage
