/-
Module: ModalLanguage.Text.Quoted
Purpose: Quoted text, for messages and logs. A quoted text is one line of printable characters,
  whatever the text holds. The quote is an apostrophe unless that alone would need escaping. The
  backslash and the quote are written behind a backslash, tab, newline and carriage return by their
  letters, and every other unprintable character by its code point in lower-case hexadecimal.
Main exports: quoted
-/
import ModalLanguage.Text.Printable

namespace ModalLanguage

namespace Quoted

/-- The last `width` hexadecimal digits of a number. -/
def hex : Nat → Nat → List Char
  | 0, _ => []
  | width + 1, n => hex width (n / 16) ++ [Nat.digitChar (n % 16)]

/-- A character by its code point, in the shortest of the three forms that holds it. -/
def codePoint (c : Char) : List Char :=
  if c.toNat < 0x100 then '\\' :: 'x' :: hex 2 c.toNat
  else if c.toNat < 0x10000 then '\\' :: 'u' :: hex 4 c.toNat
  else '\\' :: 'U' :: hex 8 c.toNat

/-- What stands for a character between two quotes. -/
def escape (quote c : Char) : List Char :=
  if c = quote ∨ c = '\\' then ['\\', c]
  else if c = '\t' then ['\\', 't']
  else if c = '\n' then ['\\', 'n']
  else if c = '\r' then ['\\', 'r']
  else if Unicode.isPrintable c then [c]
  else codePoint c

/-- A text that holds apostrophes and no double quote is quoted by double quotes. -/
def quote (text : List Char) : Char :=
  if '\x27' ∈ text ∧ '"' ∉ text then '"' else '\x27'

/-- The quoted form of a list of characters. -/
def encode (text : List Char) : List Char :=
  quote text :: text.flatMap (escape (quote text)) ++ [quote text]

end Quoted

/-- The quoted form of a text. -/
def quoted (text : String) : String :=
  String.ofList (Quoted.encode text.toList)

end ModalLanguage
