/-
Module: ModalLanguage.Parser.Basic
Purpose: Reading a whole text as a formula. The tokens are read one after another, and nothing is
  read behind the token that shows an error. A character that begins no token is an error when its
  turn comes, before anything in front of it is completed.
Main exports: Run, readFormula, Parser, Parser.run, Parser.parse
-/
import ModalLanguage.Parser.Error
import ModalLanguage.Token.Stream

namespace ModalLanguage

/-- What stopped the reading of a list of tokens. -/
inductive Stop where
  | invalid (fault : InvalidCharacter)
  | failure (failure : Failure)
deriving DecidableEq, Repr

/-- The course of a reading: how many tokens were looked at, and the formula or what stopped it. -/
structure Run where
  seen : Nat
  outcome : Except Stop Formula

/-- Read the end of the tokens, which is the end of the text or a character that begins no token. -/
def readEnd (limit : Limit) (fault : Option InvalidCharacter) (c : Configuration) :
    Except Stop Formula :=
  match fault with
  | some fault => .error (.invalid fault)
  | none =>
    match c.finish limit with
    | .error failure => .error (.failure failure)
    | .ok formula => .ok formula

/-- Read the tokens from a configuration on, of which `seen` were looked at before. -/
def readFormula (limit : Limit) (fault : Option InvalidCharacter) :
    Configuration → List Token → (seen : Nat) → Run
  | c, [], seen => ⟨seen, readEnd limit fault c⟩
  | c, token :: tokens, seen =>
    match c.step limit token with
    | .error failure => ⟨seen + 1, .error (.failure failure)⟩
    | .ok next => readFormula limit fault next tokens (seen + 1)

/-- A parser is known by its limit. Nothing else has a say in what a text is parsed as. -/
structure Parser where
  limit : Limit
deriving DecidableEq, Repr

namespace Parser

/-- The parser with the limit of a parser that is given none. -/
def standard : Parser := ⟨.standard⟩

/-- Read a text with its tokens. -/
def run (p : Parser) (text : String) : Run :=
  let list := tokenize text
  readFormula p.limit list.fault .start list.tokens 0

/-- The error that a stop is reported as. -/
def report (p : Parser) (text : String) : Stop → Error
  | .invalid fault => .invalid fault
  | .failure failure => .parse (failure.report text p.limit)

/-- The formula of a text, or the error at its first mistake. -/
def parse (p : Parser) (text : String) : Except Error Formula :=
  (p.run text).outcome.mapError (p.report text)

end Parser

end ModalLanguage
