/-
Module: ModalLanguage.Parser.Error
Purpose: The errors of parsing as they are reported: where in the text, at which token, what could
  have stood there, and the message that says so.
Main exports: ParseError, ParseError.message, Error, Error.message, Failure.report
-/
import ModalLanguage.Parser.Step
import ModalLanguage.Text.Sorted

namespace ModalLanguage

/-- What is wrong where a parse stops. A message can also be stated outright. -/
inductive ParseError.Cause where
  | unexpected
  | unknownAgent (name : String)
  | tooDeep (limit : Limit)
  | stated (message : String)
deriving DecidableEq, Repr

/-- An error at a token or at the end of the text. The expected lookaheads are given by their names,
    in order and without repetition. -/
structure ParseError where
  cause : ParseError.Cause
  offset : Nat
  expected : List String
  token : Option String
  position : Position
deriving DecidableEq, Repr

namespace ParseError

/-- The error at an offset of a text. -/
def inText (text : String) (cause : Cause) (offset : Nat) (expected : List String)
    (token : Option String) : ParseError :=
  ⟨cause, offset, distinctTexts expected, token, locate text offset⟩

/-- What is wrong, in words. The text of the token stands between apostrophes as it is. -/
def headline (e : ParseError) : String :=
  match e.cause, e.token with
  | .unexpected, some token => s!"Syntax error at '{token}'"
  | .unexpected, none => "Syntax error at end of formula"
  | .unknownAgent name, _ => s!"Unknown agent '{name}'"
  | .tooDeep limit, _ => s!"Formula nesting exceeds maximum depth {limit.nesting}"
  | .stated message, _ => message

/-- The headline, the place, and what could have stood there. -/
def message (e : ParseError) : String :=
  let place := s!" (index {e.offset}, line {e.position.line}, column {e.position.column})"
  let hint :=
    if e.expected.isEmpty then "" else "; expected one of: " ++ ", ".intercalate e.expected
  e.headline ++ place ++ hint

end ParseError

/-- Why a text has no formula: a character that begins no token, or an error among the tokens. -/
inductive Error where
  | invalid (fault : InvalidCharacter)
  | parse (error : ParseError)
deriving DecidableEq, Repr

namespace Error

/-- The message of an error. -/
def message : Error → String
  | invalid fault => fault.message
  | parse error => error.message

/-- Whether the error is that the limit is exceeded. -/
def isTooDeep : Error → Bool
  | parse ⟨.tooDeep _, _, _, _, _⟩ => true
  | _ => false

end Error

/-- The report of a failure in a text. At the end of the text the offset is the text's length. -/
def Failure.report (text : String) (limit : Limit) : Failure → ParseError
  | unexpected (some token) expected =>
    .inText text .unexpected token.offset (expected.map Lookahead.name) (some token.value)
  | unexpected none expected =>
    .inText text .unexpected text.length (expected.map Lookahead.name) none
  | unknownAgent name =>
    .inText text (.unknownAgent name.value) name.offset [Kind.agent.name] (some name.value)
  | tooDeep operator =>
    .inText text (.tooDeep limit) operator.offset [] (some operator.value)

end ModalLanguage
