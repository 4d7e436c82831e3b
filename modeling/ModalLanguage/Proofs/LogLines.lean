/-
Module: ModalLanguage.Proofs.LogLines
Purpose: No text forges a line of the log. Texts reach the log quoted or as they are. What is quoted
  stays on one line; what is written as it is comes from the tokens of the text: the values of tokens
  are spellings, and the names in a formula are names. So every line that is logged while a text is
  parsed or cut into tokens is one line with one of the marks, and the log is cut at its newlines
  into just the lines that were written.
Main exports: logMarks, IsLogLine, shownLines, WritesLogLines, Formula.singleLine_canonical,
  Parser.singleLine_message_of_parse, Parser.no_text_forges_log_lines
-/
import ModalLanguage.Proofs.Trace
import ModalLanguage.Proofs.WellFormed
import ModalLanguage.Text.SingleLine

namespace ModalLanguage

/-! ### Lines of a log -/

/-- How the lines begin that are logged while a text is parsed or cut into tokens. -/
def logMarks : List String :=
  ["[DEBUG] Parsing ", "[TOKEN] ", "[INFO] Parsed ", "  formula: ", "[ERROR] "]

/-- A line of a log: one line, with a mark in front. -/
structure IsLogLine (line : String) : Prop where
  single : SingleLine line
  marked : ∃ mark ∈ logMarks, ∃ rest, line = mark ++ rest

theorem isLogLine_of_mark {mark rest : String} (isMark : mark ∈ logMarks)
    (single : SingleLine rest) : IsLogLine (mark ++ rest) where
  single := by
    have marks : ∀ mark ∈ logMarks, SingleLine mark := by decide
    exact (marks mark isMark).append single
  marked := ⟨mark, isMark, rest, rfl⟩

/-- Those of some lines that a level shows, in order. -/
def Level.select (level : Level) (lines : List (Level × String)) : List String :=
  (lines.filter fun line => level.shows line.1).map Prod.snd

/-- The lines of events that a level shows, in order. -/
def shownLines (level : Level) (events : List Event) : List String :=
  level.select (events.flatMap Event.levelledLines)

/-- What events write at a level is a log of such lines, and cut at its newlines it is the lines that
    were written, with nothing behind the last of them. -/
structure WritesLogLines (level : Level) (events : List Event) : Prop where
  isLogLine : ∀ line ∈ shownLines level events, IsLogLine line
  readsBack : (writeEvents level events).toList.splitOn '\n' =
    (shownLines level events).map String.toList ++ [[]]

/-- A log whose lines are single lines is cut at its newlines into these. -/
theorem splitOn_shownText (level : Level) {lines : List (Level × String)}
    (single : ∀ line ∈ lines, SingleLine line.2) :
    (shownText level lines).toList.splitOn '\n' =
      (level.select lines).map String.toList ++ [[]] := by
  induction lines with
  | nil => rfl
  | cons line lines ih =>
      obtain ⟨threshold, line⟩ := line
      rw [List.forall_mem_cons] at single
      rw [shownText, Level.select, List.filter_cons]
      split
      · have unbroken : '\n' ∉ line.toList := by
          intro broken
          exact absurd (single.1 '\n' broken) (by decide)
        have cut : (line ++ "\n" ++ shownText level lines).toList =
            line.toList ++ '\n' :: (shownText level lines).toList := by
          simp [String.toList_append]
        rw [cut, List.splitOn_append_cons_self, List.splitOn_eq_singleton unbroken, ih single.2]
        rfl
      · exact ih single.2

/-- Events write log lines when all their lines are such. -/
theorem writesLogLines (level : Level) {events : List Event}
    (isLogLine : ∀ line ∈ events.flatMap Event.levelledLines, IsLogLine line.2) :
    WritesLogLines level events where
  isLogLine := by
    intro line shown
    obtain ⟨entry, member, rfl⟩ := List.mem_map.1 shown
    exact isLogLine entry (List.mem_filter.1 member).1
  readsBack := by
    rw [writeEvents_eq]
    apply splitOn_shownText
    intro line member
    exact (isLogLine line member).single

/-! ### Tokens and names -/

/-- A spelling is one line. -/
theorem Kind.Spells.endsLine {kind : Kind} {value : List Char} (spells : kind.Spells value) :
    ∀ c ∈ value, endsLine c = false := by
  rcases spells.cases with symbol | ⟨word, keyword, rfl⟩ | ⟨-, c, digits, rfl, isAlpha, isDigit⟩ |
      ⟨-, c, isAgent, rfl⟩
  · have symbols_single : ∀ symbol ∈ symbols, SingleLine (String.ofList symbol.1) := by decide
    rw [← String.toList_ofList (l := value)]
    exact symbols_single _ symbol
  · have keywords_single : ∀ keyword ∈ keywords, SingleLine keyword.1 := by decide
    exact keywords_single _ keyword
  · rw [List.forall_mem_cons]
    exact ⟨endsLine_of_isAlpha isAlpha, fun d member => endsLine_of_isDigit (isDigit d member)⟩
  · rw [List.forall_mem_singleton]
    exact endsLine_of_isAlpha (isAlpha_of_mem_agents isAgent)

theorem IsName.singleLine {name : String} (isName : IsName name) : SingleLine name :=
  isName.spelled.endsLine

theorem singleLine_of_mem_tokenize {text : String} {token : Token}
    (member : token ∈ (tokenize text).tokens) : SingleLine token.value := by
  obtain ⟨stop, cut⟩ := cut_tokenize text
  obtain ⟨text', value, longest, value_eq⟩ := cut.exists_longest member
  rw [value_eq, SingleLine, String.toList_ofList]
  exact longest.spells.endsLine

theorem Lookahead.singleLine_name (ahead : Lookahead) : SingleLine ahead.name := by
  have names_single : ∀ ahead ∈ all, SingleLine ahead.name := by decide
  exact names_single ahead ahead.mem_all

/-! ### Formulas -/

namespace Formula

theorem singleLine_modalText (op : Modality) (agent : Option Agent) :
    SingleLine (modalText op agent) := by
  have symbol : SingleLine op.symbol := by cases op <;> decide
  cases agent with
  | none => exact symbol
  | some agent =>
      have name := (isName_agent agent).singleLine
      exact ((symbol.append (by decide)).append name).append (by decide)

theorem singleLine_quantifierText (op : Quantifier) {bound : String} (isName : IsName bound) :
    SingleLine (quantifierText op bound) := by
  have symbol : SingleLine op.symbol := by cases op <;> decide
  exact (symbol.append isName.singleLine).append (by decide)

theorem singleLine_predicateText {name first : String} {rest : List String}
    (isName : IsName name) (areNames : ∀ argument ∈ first :: rest, IsName argument) :
    SingleLine (predicateText name first rest) := by
  have arguments : SingleLine (", ".intercalate (first :: rest)) :=
    SingleLine.intercalate (by decide) fun argument member => (areNames argument member).singleLine
  exact ((isName.singleLine.append (by decide)).append arguments).append (by decide)

theorem singleLine_operand {operand : Formula} (single : SingleLine operand.canonical) :
    SingleLine (if operand.isBracketed then "(" ++ operand.canonical ++ ")"
      else operand.canonical) := by
  split
  · exact single.surround (by decide) (by decide)
  · exact single

/-- The canonical text of a formula is one line when its names are names. -/
theorem singleLine_canonical {f : Formula} (named : f.WellNamed) : SingleLine f.canonical := by
  induction f with
  | atom name => exact IsName.singleLine named
  | constant value => cases value <;> decide
  | predicate name first rest =>
      exact singleLine_predicateText named.1 (List.forall_mem_cons.2 named.2)
  | foreign => exact named.elim
  | negation operand ih => exact SingleLine.append (by decide) (ih named)
  | modal op agent operand ih =>
      exact (singleLine_modalText op agent).append (singleLine_operand (ih named))
  | quantified op bound operand ih =>
      exact (singleLine_quantifierText op named.1).append (singleLine_operand (ih named.2))
  | binary op left right ihLeft ihRight =>
      have symbol : SingleLine op.symbol := by cases op <;> decide
      have left_single := ihLeft named.1
      have right_single := ihRight named.2
      exact (((left_single.surround (by decide) (by decide)).append symbol).append
        (by decide)).append right_single |>.append (by decide)

end Formula

/-! ### Messages -/

theorem singleLine_place {front : String} (single : SingleLine front) (position : Position) :
    SingleLine (front ++ toString position.line ++ ", column " ++ toString position.column ++
      ")") := by
  have line := single.append (singleLine_nat position.line)
  have column := singleLine_nat position.column
  exact ((line.append (by decide)).append column).append (by decide)

/-- The message about a character is one line, whatever the character is. -/
theorem InvalidCharacter.singleLine_message (e : InvalidCharacter) : SingleLine e.message := by
  have char := singleLine_quoted (String.singleton e.char)
  have index := singleLine_nat e.offset
  apply SingleLine.append
  · exact ((char.surround (by decide) (by decide)).append index).append (by decide)
  · exact singleLine_place (by decide) e.position

/-- The message of an error is one line when its headline is and what is expected is. -/
theorem ParseError.singleLine_message {e : ParseError} (head : SingleLine e.headline)
    (named : ∀ name ∈ e.expected, SingleLine name) : SingleLine e.message := by
  have index := singleLine_nat e.offset
  rw [message]
  apply SingleLine.append
  · apply head.append
    exact singleLine_place (index.surround (by decide) (by decide)) e.position
  · split
    · decide
    · exact SingleLine.append (by decide) (SingleLine.intercalate (by decide) named)

theorem Failure.singleLine_expected {failure : Failure} {text : String} {limit : Limit}
    {name : String} (expected : name ∈ (failure.report text limit).expected) :
    SingleLine name := by
  cases failure with
  | unexpected found expectation =>
      cases found with
      | some | none =>
          rw [report, ParseError.inText, mem_distinctTexts, List.mem_map] at expected
          obtain ⟨ahead, -, rfl⟩ := expected
          exact ahead.singleLine_name
  | unknownAgent token =>
      rw [report, ParseError.inText, mem_distinctTexts, List.mem_singleton] at expected
      rw [expected]
      decide
  | tooDeep operator =>
      rw [report, ParseError.inText, mem_distinctTexts] at expected
      cases expected

namespace Parser

variable {p : Parser} {text : String}

/-- An error names a token of the text or none, and so its headline is one line. -/
theorem LooksAt.singleLine_headline {e : ParseError} {n : Nat}
    (looks : p.LooksAt text (.error (.parse e)) n) : SingleLine e.headline := by
  cases looks with
  | ending cause stands =>
      rw [ParseError.headline, cause, stands.2]
      decide
  | unexpected cause there stands =>
      rw [ParseError.headline, cause, stands.2]
      have value := singleLine_of_mem_tokenize (List.mem_of_getElem? there)
      exact value.surround (by decide) (by decide)
  | unknownAgent cause there stands next =>
      rw [ParseError.headline, cause]
      have name := singleLine_of_mem_tokenize (List.mem_of_getElem? there)
      exact name.surround (by decide) (by decide)
  | tooDeep cause stands made deep =>
      rw [ParseError.headline, cause]
      exact SingleLine.append (by decide) (singleLine_nat p.limit.nesting)

/-- The message of an error of parsing is one line. -/
theorem singleLine_message_of_parse {error : Error} (failed : p.parse text = .error error) :
    SingleLine error.message := by
  cases error with
  | invalid fault => exact fault.singleLine_message
  | parse e =>
      have looks := p.looksAt_run text
      rw [failed] at looks
      obtain ⟨failure, rfl, -⟩ := parse_eq_parseError failed
      exact ParseError.singleLine_message looks.singleLine_headline fun name expected =>
        Failure.singleLine_expected expected

end Parser

/-! ### The log -/

theorem Token.isLogLine (t : Token) : IsLogLine t.logLine.2 := by
  have line_eq : t.logLine.2 =
      "[TOKEN] " ++ (t.kind.name ++ " " ++ quoted t.value ++ " @ " ++ toString t.offset) := by
    simp only [logLine, String.append_assoc]
    rfl
  rw [line_eq]
  apply isLogLine_of_mark (by decide)
  have kind := (Lookahead.token t.kind).singleLine_name
  have value := singleLine_quoted t.value
  exact (((kind.append (by decide)).append value).append (by decide)).append
    (singleLine_nat t.offset)

namespace Parser

variable {p : Parser} {text : String}

theorem isLogLine_endLines {line : Level × String}
    (member : line ∈ endLines text (p.parse text)) : IsLogLine line.2 := by
  cases outcome : p.parse text with
  | ok f =>
      rw [outcome, endLines, List.mem_cons, List.mem_singleton] at member
      rcases member with rfl | rfl
      · exact isLogLine_of_mark (by decide) (singleLine_quoted text)
      · have canonical := Formula.singleLine_canonical (wellNamed_of_parse outcome).1
        rw [← f.render_eq_canonical] at canonical
        exact isLogLine_of_mark (by decide) canonical
  | error error =>
      rw [outcome] at member
      obtain rfl := List.mem_singleton.1 member
      exact isLogLine_of_mark (by decide) (singleLine_message_of_parse outcome)

theorem isLogLine_events {line : Level × String}
    (member : line ∈ (p.events text).flatMap Event.levelledLines) : IsLogLine line.2 := by
  rw [levelledLines_events, logLines, List.mem_cons, List.mem_append, List.mem_map] at member
  rcases member with rfl | ⟨token, -, rfl⟩ | atEnd
  · exact isLogLine_of_mark (by decide) (singleLine_quoted text)
  · exact token.isLogLine
  · exact isLogLine_endLines atEnd

/-- No text forges a line of the log. Whatever the text is, and at every limit and every level, what
    is logged while it is parsed or cut into tokens are single lines with one of the marks, and the
    log is cut at its newlines into just these lines. -/
theorem no_text_forges_log_lines (p : Parser) (text : String) (level : Level) :
    WritesLogLines level (p.events text) ∧ WritesLogLines level (tokenEvents text) := by
  constructor
  · exact writesLogLines level fun line member => isLogLine_events member
  · apply writesLogLines
    intro line member
    rw [tokenEvents, Token.levelledLines_events] at member
    obtain ⟨token, -, rfl⟩ := List.mem_map.1 member
    exact token.isLogLine

/-- A text that looks like a line of the log is quoted where the log tells it. -/
example : shownLines .debug (standard.events "p\n[ERROR] q") =
    ["[DEBUG] Parsing 'p\\n[ERROR] q'", "[TOKEN] ATOM 'p' @ 0", "[TOKEN] LPAREN '[' @ 2",
      "[TOKEN] EXISTS 'E' @ 3",
      "[ERROR] Syntax error at 'E' (index 3, line 2, column 2); expected one of: ATOM"] := by
  decide +kernel

end Parser

end ModalLanguage
