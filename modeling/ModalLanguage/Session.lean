/-
Module: ModalLanguage.Session
Purpose: A row of requests to one parser and the log that it shares with a tokenizer. The parser has
  a scanner and a machine, the tokenizer a scanner, and each call works with copies of them, which
  stay behind in the session's apparatus. Formulas that are parsed or built get a slot each, in
  order, and later requests name them by their slots. Each request has an outcome and a text that
  was logged meanwhile. A request that fails fills no slot.
Main exports: Session, Request, Outcome, Session.step, Session.run
-/
import ModalLanguage.Facts
import ModalLanguage.Formula.Head
import ModalLanguage.Parser.Apparatus

namespace ModalLanguage

/-- The state of a session: its scanners and machines, with the places of those that are never lent
    out but copied, and what can be changed. The limit that the parser shows is not the one that its
    machine holds formulas against. -/
structure Session where
  apparatus : Apparatus
  /-- The parser's own scanner. -/
  scanner : Nat
  /-- The parser's own machine. -/
  machine : Nat
  /-- The tokenizer's own scanner. -/
  tokenizer : Nat
  shownLimit : Datum
  level : Level
  slots : Array Formula

/-- A request to a session. -/
inductive Request where
  /-- Read a text as a formula. -/
  | parse (text : String)
  /-- Cut a text into tokens. -/
  | tokenize (text : String)
  /-- Change the level of the log. -/
  | level (level : Level)
  /-- Show another value as the limit. The parser's machine stays as it was built. -/
  | limit (value : Datum)
  /-- Build a node over formulas of the session. -/
  | make (head : Head) (operands : List Nat)
  /-- Tell the facts about a formula. -/
  | facts (slot : Nat)
  /-- Read the canonical text of a formula. -/
  | reparse (slot : Nat)
  /-- Sort all formulas by equality. -/
  | distinct
  /-- Tell whether a formula is a subformula of another one. -/
  | contains (slot part : Nat)

/-- The outcome of a request. -/
inductive Outcome where
  | parsed (slot : Nat) (text : String)
  | tokens (list : TokenList)
  | done
  | limit (value : Datum)
  | made (slot : Nat) (text : String) (depth nesting : Nat)
  | facts (facts : Facts)
  | reparsed (slot : Nat) (same : Bool)
  | distinct (classes : List Nat) (size : Nat)
  | contains (answer : Bool)
  | refused (error : Error)
  | faulty (fault : Fault)
  | noSlot

namespace Session

/-- The apparatus of a parser and a tokenizer that were never used. -/
def apparatusOf (parser : Parser) : Apparatus :=
  ⟨#[.ofText "", .ofText ""], #[.ofLimit parser.limit]⟩

/-- A session with nothing in its slots, and what is logged when its parser is built. -/
def start (parser : Parser) (level : Level) : Session × String :=
  ({ apparatus := apparatusOf parser
     scanner := 0
     machine := 0
     tokenizer := 1
     shownLimit := .int parser.limit.nesting
     level
     slots := #[] },
    writeEvents level buildEvents)

/-- Put a formula into the next slot. -/
def add (s : Session) (f : Formula) : Session := { s with slots := s.slots.push f }

/-- For each formula the first slot that holds an equal one. -/
def classes (s : Session) : List Nat :=
  s.slots.toList.map fun f => s.slots.toList.findIdx fun g => g == f

/-- The number of different formulas. -/
def distinctCount (s : Session) : Nat := (Std.HashSet.ofList s.slots.toList).size

/-- Parse a text, put the formula into the next slot, and tell the outcome from the formula and its
    slot. -/
def parseInto (s : Session) (text : String) (outcome : Nat → Formula → Outcome) :
    Outcome × String × Session :=
  let called := s.apparatus.parse s.level s.scanner s.machine text
  let s := { s with apparatus := called.behind }
  match called.outcome with
  | .ok f => (outcome s.slots.size f, called.logged, s.add f)
  | .error error => (.refused error, called.logged, s)

/-- Cut a text into tokens. -/
def cut (s : Session) (text : String) : Outcome × String × Session :=
  let called := s.apparatus.cut s.level s.tokenizer text
  (.tokens called.outcome, called.logged, { s with apparatus := called.behind })

/-- Answer a request: the outcome, what was logged, and the session behind it. -/
def step (s : Session) : Request → Outcome × String × Session
  | .parse text => s.parseInto text fun slot f => .parsed slot f.render
  | .tokenize text => s.cut text
  | .level level => (.done, "", { s with level })
  | .limit value => (.limit value, "", { s with shownLimit := value })
  | .make head operands =>
    match operands.mapM fun slot => s.slots[slot]? with
    | none => (.noSlot, "", s)
    | some operands =>
      match head.build operands with
      | .ok f => (.made s.slots.size f.render f.depth f.nesting, "", s.add f)
      | .error fault => (.faulty fault, "", s)
  | .facts slot =>
    match s.slots[slot]? with
    | none => (.noSlot, "", s)
    | some f => (.facts f.facts, "", s)
  | .reparse slot =>
    match s.slots[slot]? with
    | none => (.noSlot, "", s)
    | some f => s.parseInto f.render fun slot g => .reparsed slot (g == f)
  | .distinct => (.distinct s.classes s.distinctCount, "", s)
  | .contains slot part =>
    match s.slots[slot]?, s.slots[part]? with
    | some f, some g => (.contains (f.subformulas.contains g), "", s)
    | _, _ => (.noSlot, "", s)

/-- Answer a row of requests. -/
def run (s : Session) : List Request → List (Outcome × String)
  | [] => []
  | request :: requests =>
    let (outcome, logged, next) := s.step request
    (outcome, logged) :: next.run requests

end Session

end ModalLanguage
