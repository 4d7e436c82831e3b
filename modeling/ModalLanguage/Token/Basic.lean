/-
Module: ModalLanguage.Token.Basic
Purpose: Tokens, and the error for a character that begins no token.
Main exports: Token, InvalidCharacter, InvalidCharacter.message
-/
import ModalLanguage.Text.Position
import ModalLanguage.Text.Quoted
import ModalLanguage.Token.Kind

namespace ModalLanguage

/-- A piece of a text with its kind and the offset of its first character. -/
structure Token where
  kind : Kind
  value : String
  offset : Nat
deriving DecidableEq, Repr

/-- A character at which no token begins. -/
structure InvalidCharacter where
  offset : Nat
  char : Char
  position : Position
deriving DecidableEq, Repr

namespace InvalidCharacter

/-- The error for the character at an offset. Behind the end of the text there is none. -/
def inText? (text : String) (offset : Nat) : Option InvalidCharacter :=
  text.toList[offset]?.map fun char => ⟨offset, char, locate text offset⟩

/-- The character is quoted, so the message is one line. -/
def message (e : InvalidCharacter) : String :=
  s!"Invalid character {quoted (String.singleton e.char)} at index {e.offset} "
    ++ s!"(line {e.position.line}, column {e.position.column})"

end InvalidCharacter

end ModalLanguage
