/-
Module: ModalLanguage.Proofs.Reuse
Purpose: One parser can be used for ever. A request may change the level of the log and the limit
  that is shown, it may fill a slot, and a call leaves its copies behind; all scanners and machines
  that there were stay as they were, and so do the filled slots (`Session.Keeps`), whether the
  request succeeds or fails. So it is with rows of requests. The scanners and the machine that calls
  copy are therefore as they were built behind any row of requests (`Session.Built`), and what a
  text is parsed as, or cut into, is the same there as in a new and silent session; the formula
  stays in its slot whatever is asked later.
Main exports: Session.after, Session.outcomeAt, Session.returnedAt, Session.Keeps,
  Session.step_keeps, Session.after_keeps, Session.Built, Session.built_start,
  Session.Built.logged_parse, Session.logged_tokenize, Session.parser_is_reusable
-/
import ModalLanguage.Proofs.Calls
import ModalLanguage.Session

namespace ModalLanguage

namespace Session

/-! ### What a row of requests leads to -/

/-- The session behind a row of requests. -/
def after (s : Session) : List Request → Session
  | [] => s
  | request :: requests => (s.step request).2.2.after requests

/-- The outcome of the request at a place of a row. -/
def outcomeAt (s : Session) (requests : List Request) (place : Nat) : Option Outcome :=
  (s.run requests)[place]?.map Prod.fst

/-- What the parser returned to the request at a place of a row: the formula that is found in the slot
    when all requests are answered, or the error. -/
def returnedAt (s : Session) (requests : List Request) (place : Nat) :
    Option (Except Error Formula) :=
  match s.outcomeAt requests place with
  | some (.parsed slot _) => (s.after requests).slots[slot]?.map .ok
  | some (.refused error) => some (.error error)
  | _ => none

theorem after_append (s : Session) (first second : List Request) :
    s.after (first ++ second) = (s.after first).after second := by
  induction first generalizing s with
  | nil => rfl
  | cons request first ih => exact ih _

/-- Each request is answered in the session that the requests in front of it lead to. -/
theorem outcomeAt_append (s : Session) (before later : List Request) (request : Request) :
    s.outcomeAt (before ++ request :: later) before.length =
      some ((s.after before).step request).1 := by
  induction before generalizing s with
  | nil => rfl
  | cons first before ih => exact ih _

/-! ### What no request changes -/

/-- A session has all scanners and machines of another one, and all its slots. -/
structure Keeps (s next : Session) : Prop where
  apparatus : s.apparatus.Keeps next.apparatus
  scanner : next.scanner = s.scanner
  machine : next.machine = s.machine
  tokenizer : next.tokenizer = s.tokenizer
  slots : Retains s.slots next.slots

theorem Keeps.refl (s : Session) : s.Keeps s := ⟨.refl _, rfl, rfl, rfl, .refl _⟩

theorem Keeps.trans {s middle next : Session} (first : s.Keeps middle)
    (second : middle.Keeps next) : s.Keeps next where
  apparatus := first.apparatus.trans second.apparatus
  scanner := second.scanner.trans first.scanner
  machine := second.machine.trans first.machine
  tokenizer := second.tokenizer.trans first.tokenizer
  slots := first.slots.trans second.slots

theorem add_keeps (s : Session) (f : Formula) : s.Keeps (s.add f) :=
  ⟨.refl _, rfl, rfl, rfl, (Retains.refl _).push f⟩

theorem parseInto_keeps (s : Session) (text : String) (outcome : Nat → Formula → Outcome) :
    s.Keeps (s.parseInto text outcome).2.2 := by
  let called := s.apparatus.parse s.level s.scanner s.machine text
  have behind : s.Keeps { s with apparatus := called.behind } :=
    ⟨s.apparatus.parse_keeps s.level s.scanner s.machine text, rfl, rfl, rfl, .refl _⟩
  simp only [parseInto]
  split
  · exact behind.trans (add_keeps _ _)
  · exact behind

theorem cut_keeps (s : Session) (text : String) : s.Keeps (s.cut text).2.2 :=
  ⟨s.apparatus.cut_keeps s.level s.tokenizer text, rfl, rfl, rfl, .refl _⟩

/-- No request changes a scanner or machine that there was, or a slot that is filled. -/
theorem step_keeps (s : Session) (request : Request) : s.Keeps (s.step request).2.2 := by
  cases request with
  | parse text => exact s.parseInto_keeps text _
  | tokenize text => exact s.cut_keeps text
  | level level => exact ⟨.refl _, rfl, rfl, rfl, .refl _⟩
  | limit value => exact ⟨.refl _, rfl, rfl, rfl, .refl _⟩
  | make head operands =>
      simp only [step]
      split
      · exact .refl s
      · split
        · exact s.add_keeps _
        · exact .refl s
  | facts slot =>
      simp only [step]
      split <;> exact .refl s
  | reparse slot =>
      simp only [step]
      split
      · exact .refl s
      · exact s.parseInto_keeps _ _
  | distinct => exact .refl s
  | contains slot part =>
      simp only [step]
      split <;> exact .refl s

/-- Neither does a row of requests. -/
theorem after_keeps (s : Session) (requests : List Request) : s.Keeps (s.after requests) := by
  induction requests generalizing s with
  | nil => exact .refl s
  | cons request requests ih => exact (s.step_keeps request).trans (ih _)

/-! ### What calls copy -/

/-- The scanners and the machine that calls copy are as they were built. -/
structure Built (s : Session) (parser : Parser) : Prop where
  scanner : s.apparatus.scanners[s.scanner]? = some (.ofText "")
  machine : s.apparatus.machines[s.machine]? = some (.ofLimit parser.limit)
  tokenizer : s.apparatus.scanners[s.tokenizer]? = some (.ofText "")

theorem built_start (parser : Parser) (level : Level) : (start parser level).1.Built parser :=
  ⟨rfl, rfl, rfl⟩

/-- They stay so, whatever calls are made and however these end. -/
theorem Built.after {s : Session} {parser : Parser} (built : s.Built parser)
    (requests : List Request) : (s.after requests).Built parser := by
  have keeps := s.after_keeps requests
  constructor
  · rw [keeps.scanner]
    exact keeps.apparatus.scanners.getElem? built.scanner
  · rw [keeps.machine]
    exact keeps.apparatus.machines.getElem? built.machine
  · rw [keeps.tokenizer]
    exact keeps.apparatus.scanners.getElem? built.tokenizer

namespace Built

variable {s : Session} {parser : Parser} (built : s.Built parser)

include built

theorem limit_eq : (s.apparatus.machine s.machine).limit = parser.limit := by
  rw [Apparatus.machine_eq built.machine]
  rfl

theorem parse_outcome (text : String) :
    (s.apparatus.parse s.level s.scanner s.machine text).outcome = parser.parse text :=
  Apparatus.parse_outcome _ _ _ built.limit_eq

/-- What is logged of a request to parse a text is the log of the parse at the session's level. -/
theorem logged_parse (text : String) :
    (s.step (.parse text)).2.1 = writeEvents s.level (parser.events text) := by
  have logged_eq : (s.apparatus.parse s.level s.scanner s.machine text).logged =
      writeEvents s.level (parser.events text) := Apparatus.parse_logged _ _ _ built.limit_eq
  rw [← logged_eq]
  simp only [step, parseInto]
  split <;> rfl

end Built

/-- What is logged of a request to cut a text are its tokens. -/
theorem logged_tokenize (s : Session) (text : String) :
    (s.step (.tokenize text)).2.1 = writeEvents s.level (tokenEvents text) :=
  s.apparatus.cut_logged s.level s.tokenizer text

/-! ### One parser, many requests -/

/-- What a session returns to a text is decided by the limit of its machine and the text. -/
theorem returnedAt_parse {s : Session} {parser : Parser} (built : s.Built parser)
    (before later : List Request) (text : String) :
    s.returnedAt (before ++ .parse text :: later) before.length = some (parser.parse text) := by
  have called := (built.after before).parse_outcome text
  rw [returnedAt, outcomeAt_append, after_append, after]
  generalize s.after before = t at called ⊢
  cases parsed : parser.parse text with
  | error error =>
      rw [parsed] at called
      simp only [step, parseInto, called]
  | ok f =>
      rw [parsed] at called
      simp only [step, parseInto, called]
      let called := t.apparatus.parse t.level t.scanner t.machine text
      let behind := { t with apparatus := called.behind }
      have filled : (behind.add f).slots[t.slots.size]? = some f := Array.getElem?_push_size
      have stays := ((behind.add f).after_keeps later).slots.getElem? filled
      rw [stays]
      rfl

/-- And so for the tokens of a text. -/
theorem outcomeAt_tokenize (s : Session) (before later : List Request) (text : String) :
    s.outcomeAt (before ++ .tokenize text :: later) before.length =
      some (.tokens (tokenize text)) := by
  rw [outcomeAt_append, step, cut]
  simp only [Apparatus.cut_outcome]

/-- One parser can be used for ever. Behind any row of requests what calls copy is as it was built.
    A text is parsed there, in front of any other requests, as the same formula or refused with the
    same error as by a new parser with the limit that was given when the session started, in a
    session that is silent and asked for nothing else; and it is cut into the same tokens. -/
theorem parser_is_reusable (parser : Parser) (level : Level) (before later : List Request)
    (text : String) :
    ((start parser level).1.after before).Built parser ∧
    ((start parser level).1.returnedAt (before ++ .parse text :: later) before.length =
        (start parser .silent).1.returnedAt [.parse text] 0 ∧
      (start parser .silent).1.returnedAt [.parse text] 0 = some (parser.parse text)) ∧
    ((start parser level).1.outcomeAt (before ++ .tokenize text :: later) before.length =
        (start parser .silent).1.outcomeAt [.tokenize text] 0 ∧
      (start parser .silent).1.outcomeAt [.tokenize text] 0 = some (.tokens (tokenize text))) := by
  have fresh : (start parser .silent).1.returnedAt [.parse text] 0 = some (parser.parse text) :=
    returnedAt_parse (built_start parser .silent) [] [] text
  have freshTokens : (start parser .silent).1.outcomeAt [.tokenize text] 0 =
      some (.tokens (tokenize text)) := outcomeAt_tokenize _ [] [] text
  refine ⟨(built_start parser level).after before, ⟨?_, fresh⟩, ?_, freshTokens⟩
  · rw [fresh]
    exact returnedAt_parse (built_start parser level) before later text
  · rw [freshTokens]
    exact outcomeAt_tokenize _ before later text

end Session

end ModalLanguage
