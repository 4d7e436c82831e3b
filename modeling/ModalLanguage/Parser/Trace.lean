/-
Module: ModalLanguage.Parser.Trace
Purpose: The events of building a parser, of parsing a text and of cutting a text into tokens. A
  parse tells the text, the tokens that were looked at, and how it ended.
Main exports: buildEvents, Token.event, Parser.events, tokenEvents
-/
import ModalLanguage.Log
import ModalLanguage.Parser.Basic

namespace ModalLanguage

/-- The kinds of tokens that no formula holds, in the order of their names. -/
def unusedKinds : List Kind := [.equals, .atLeast, .atMost]

/-- The events of building a parser: the kinds that stay unused are named and counted. -/
def buildEvents : List Event :=
  let unused := unusedKinds.map fun kind => s!"Token '{kind.name}' defined, but not used"
  let notes := unused ++ [s!"There are {unused.length} unused tokens", "Generating LALR tables"]
  notes.map fun note => .debug s!"yacc: {note}" []

/-- The event of looking at a token. -/
def Token.event (t : Token) : Event := .token t.kind.name t.value t.offset

/-- The events of cutting a text into tokens. -/
def tokenEvents (text : String) : List Event :=
  (tokenize text).tokens.map Token.event

namespace Parser

/-- The event of how a parse ended. -/
def endEvent (text : String) : Except Error Formula → Event
  | .ok formula => .parsed text formula
  | .error error => .error error.message []

/-- The events of parsing a text. -/
def events (p : Parser) (text : String) : List Event :=
  .debug s!"Parsing {quoted text}" [] ::
    ((tokenEvents text).take (p.run text).seen ++ [endEvent text (p.parse text)])

end Parser

end ModalLanguage
