/-
Module: ModalLanguage.Log
Purpose: What is written down while formulas are read, filtered by a level. Every event has a level
  from which on it is shown, and a fixed form: one line, or a line and its details indented below
  it.
Main exports: Level, Level.shows, Detail, Event, Event.threshold, Event.lines, Event.write, Call,
  replay
-/
import ModalLanguage.Formula.Printer
import ModalLanguage.Text.Quoted

namespace ModalLanguage

/-- How much is shown: nothing, failures, also what was read, also every token. -/
inductive Level where
  | silent
  | normal
  | verbose
  | debug
deriving DecidableEq, Repr

namespace Level

/-- Every level, from the one that shows least. -/
def all : List Level := [silent, normal, verbose, debug]

/-- The name of a level. -/
def name : Level → String
  | silent => "SILENT"
  | normal => "NORMAL"
  | verbose => "VERBOSE"
  | debug => "DEBUG"

/-- The place of a level among the levels. -/
def rank : Level → Nat
  | silent => 0
  | normal => 1
  | verbose => 2
  | debug => 3

/-- The level of a name. -/
def ofName? (name : String) : Option Level :=
  all.find? fun level => level.name = name

/-- Whether what belongs to a threshold is shown. -/
def shows (level threshold : Level) : Bool := threshold.rank ≤ level.rank

/-- The level of a log that is given none. -/
def standard : Level := normal

/-- The level of a parser that is given no log. -/
def withoutLog : Level := silent

end Level

/-- The value of a detail of an event. -/
inductive Detail where
  | text (value : String)
  | number (value : Int)
deriving DecidableEq, Repr

namespace Detail

/-- A detail as it is written: texts as they are, numbers in decimal. -/
def render : Detail → String
  | text value => value
  | number value => toString value

end Detail

/-- What can be written down. -/
inductive Event where
  | debug (message : String) (details : List (String × Detail))
  | info (message : String) (details : List (String × Detail))
  | error (message : String) (details : List (String × Detail))
  | token (kind value : String) (offset : Int)
  | parsed (text : String) (formula : Formula)
deriving DecidableEq, Repr

namespace Event

/-- The level from which on an event is shown. -/
def threshold : Event → Level
  | debug _ _ => .debug
  | info _ _ => .verbose
  | error _ _ => .normal
  | token _ _ _ => .debug
  | parsed _ _ => .verbose

/-- A message under its mark, and its details below it. -/
def messageLines (mark message : String) (details : List (String × Detail)) : List String :=
  s!"[{mark}] {message}" :: details.map fun (key, value) => s!"  {key}: {value.render}"

/-- The lines of an event. Texts that were read are quoted. -/
def lines : Event → List String
  | debug message details => messageLines "DEBUG" message details
  | info message details => messageLines "INFO" message details
  | error message details => messageLines "ERROR" message details
  | token kind value offset => [s!"[TOKEN] {kind} {quoted value} @ {offset}"]
  | parsed text formula => [s!"[INFO] Parsed {quoted text}", s!"  formula: {formula.render}"]

/-- What an event writes at a level: its lines, each with a newline behind it, or nothing. -/
def write (level : Level) (event : Event) : String :=
  if level.shows event.threshold then
    event.lines.foldl (fun written line => written ++ line ++ "\n") ""
  else ""

end Event

/-- What a list of events writes. -/
def writeEvents (level : Level) (events : List Event) : String :=
  events.foldl (fun written event => written ++ event.write level) ""

/-- What can be asked of a log: to write an event, to change its level, or to tell whether something
    would be shown. -/
inductive Call where
  | event (event : Event)
  | setLevel (level : Level)
  | shows (threshold : Level)
deriving DecidableEq, Repr

/-- What a log answers: the text that it wrote, or whether something would be shown. -/
inductive Reply where
  | written (text : String)
  | shown (answer : Bool)
deriving DecidableEq, Repr

/-- The answers of a log to a list of calls. -/
def replay (level : Level) : List Call → List Reply
  | [] => []
  | .event event :: calls => .written (event.write level) :: replay level calls
  | .setLevel next :: calls => .written "" :: replay next calls
  | .shows threshold :: calls => .shown (level.shows threshold) :: replay level calls

end ModalLanguage
