/-
Module: ModalLanguage.Proofs.Trace
Purpose: What is logged while a text is parsed. The log of a parse is the announcement of the text, a
  line for each token that was looked at, and lines for how the parse ended; a level leaves out the
  lines that it does not show and changes nothing else (`writeEvents_eq`). How many tokens were
  looked at is told from the outcome alone (`Parser.LooksAt`): all of them, or those up to the token
  that is refused, up to the one behind the name of an unknown agent, or up to the one behind the
  last operand of an operator that is too deep. An outcome tells no other number, since tokens begin
  at different offsets and an operator ends at one place (`Parser.LooksAt.unique`).
Main exports: Parser.LooksAt, Parser.looksAt_run, Parser.LooksAt.unique, shownText, writeEvents_eq,
  Parser.logLines, Parser.parse_log_tells_course
-/
import ModalLanguage.Parser.Trace
import ModalLanguage.Proofs.Online
import ModalLanguage.Proofs.OperatorEnd

namespace ModalLanguage

/-! ### How far a parse looks -/

namespace Parser

/-- The number of tokens, from the first one on, that a parse looks at before it ends with an
    outcome. -/
inductive LooksAt (p : Parser) (text : String) : Except Error Formula → Nat → Prop where
  | formula (f : Formula) : LooksAt p text (.ok f) (tokenize text).tokens.length
  | invalid (fault : InvalidCharacter) :
      LooksAt p text (.error (.invalid fault)) (tokenize text).tokens.length
  | ending {e : ParseError} (cause : e.cause = .unexpected) (stands : e.StandsAtEnd text) :
      LooksAt p text (.error (.parse e)) (tokenize text).tokens.length
  | unexpected {e : ParseError} {place : Nat} {token : Token} (cause : e.cause = .unexpected)
      (there : (tokenize text).tokens[place]? = some token) (stands : e.StandsAt token) :
      LooksAt p text (.error (.parse e)) (place + 1)
  | unknownAgent {e : ParseError} {place : Nat} {name behind : Token}
      (cause : e.cause = .unknownAgent name.value)
      (there : (tokenize text).tokens[place]? = some name) (stands : e.StandsAt name)
      (next : (tokenize text).tokens[place + 1]? = some behind) :
      LooksAt p text (.error (.parse e)) (place + 2)
  | tooDeep {e : ParseError} {s : Stratum} {operator : Token} {node : Tree s} {start : Nat}
      (cause : e.cause = .tooDeep p.limit) (stands : e.StandsAt operator)
      (made : node.MadeBy operator (tokenize text).tokens start)
      (deep : p.limit.nesting < node.formula.nesting) :
      LooksAt p text (.error (.parse e))
        (min (start + node.tokens.length + 1) (tokenize text).tokens.length)

/-- An operator that what has been read makes too deep ends with the tokens that were read. -/
theorem exists_madeBy {next : Follower} {operator : Token} {phrase : Phrase}
    {before after : List Token} (applied : Applied next operator phrase before)
    (ahead : aheadAt (before ++ after) before.length = next.ahead) :
    ∃ (s : Stratum) (node : Tree s) (start : Nat),
      node.MadeBy operator (before ++ after) start ∧ node.formula = phrase.formula ∧
        start + node.tokens.length = before.length := by
  obtain ⟨tree, opened, fits, known, widest, precedes, root⟩ := applied
  rename_i frames front s
  refine ⟨s, tree, front.length, ⟨root, known, ?_, ?_⟩, rfl, List.length_append.symm⟩
  · rw [Stands, List.append_assoc, List.drop_left]
    exact List.prefix_append _ _
  · rw [← List.length_append]
    exact ⟨next, ahead, precedes, widest⟩

section Stops

variable {p : Parser} {text : String} {c : Configuration} {failure : Failure}

theorem looksAt_of_stops {before after : List Token} {token : Token}
    (tokens_eq : (tokenize text).tokens = before ++ token :: after)
    (read : Configuration.start.steps p.limit before = .ok c)
    (stops : c.step p.limit token = .error failure) :
    p.LooksAt text (.error (.parse (failure.report text p.limit))) (before.length + 1) := by
  have there : (tokenize text).tokens[before.length]? = some token := by
    rw [tokens_eq, List.getElem?_append_right (Nat.le_refl _), Nat.sub_self]
    rfl
  have reads : Reads c before := reads_start.steps read
  cases Configuration.step_error stops with
  | unexpected refused => exact .unexpected rfl there ⟨rfl, rfl⟩
  | @unknownAgent op name modality focus unknown =>
      -- The name stands right in front of the token that begins its operand.
      obtain ⟨frames, focus'⟩ := c
      cases focus
      cases reads with
      | @agent frames front modality op mark name opened =>
          have name_there : (tokenize text).tokens[front.length + 2]? = some name := by
            rw [tokens_eq]
            simp
          rw [List.length_append] at there ⊢
          exact .unknownAgent rfl name_there ⟨rfl, rfl⟩ there
  | @tooDeep operator phrase next complete failed follows =>
      obtain ⟨whole, applied, deep⟩ := closeFrames_tooDeep (reads.pending complete next) failed
      have ahead : aheadAt (before ++ token :: after) before.length = next.ahead := by
        rw [← tokens_eq, aheadAt_eq_token there]
        exact Lookahead.follower?_eq_some_iff.1 follows
      obtain ⟨s, node, start, made, formula_eq, finish⟩ := exists_madeBy applied ahead
      rw [← tokens_eq] at made
      rw [← formula_eq] at deep
      have inside : before.length + 1 ≤ (tokenize text).tokens.length := by
        rw [tokens_eq, List.length_append]
        exact Nat.add_le_add_left (Nat.succ_pos _) _
      rw [← Nat.min_eq_left inside, ← finish]
      exact .tooDeep rfl ⟨rfl, rfl⟩ made deep

theorem looksAt_of_finish
    (read : Configuration.start.steps p.limit (tokenize text).tokens = .ok c)
    (failed : c.finish p.limit = .error failure) :
    p.LooksAt text (.error (.parse (failure.report text p.limit)))
      (tokenize text).tokens.length := by
  have reads : Reads c (tokenize text).tokens := reads_start.steps read
  rcases Configuration.finish_error failed with ⟨rfl, -⟩ | ⟨phrase, operator, complete, rfl, deep⟩
  · exact .ending rfl ⟨rfl, rfl⟩
  · obtain ⟨whole, applied, deep⟩ := closeFrames_tooDeep (reads.pending complete .ending) deep
    have ahead : aheadAt ((tokenize text).tokens ++ []) (tokenize text).tokens.length =
        Follower.ending.ahead := by
      simp [aheadAt, Follower.ahead]
    obtain ⟨s, node, start, made, formula_eq, finish⟩ := exists_madeBy applied ahead
    rw [List.append_nil] at made
    rw [← formula_eq] at deep
    have looks : p.LooksAt text
        (.error (.parse ((Failure.tooDeep operator).report text p.limit))) _ :=
      .tooDeep rfl ⟨rfl, rfl⟩ made deep
    rwa [finish, Nat.min_eq_right (Nat.le_succ _)] at looks

end Stops

/-- A parse looks at as many tokens as its outcome tells. -/
theorem looksAt_run (p : Parser) (text : String) :
    p.LooksAt text (p.parse text) (p.run text).seen := by
  rcases Configuration.steps_cases p.limit .start (tokenize text).tokens with
    ⟨c, read⟩ | ⟨before, token, after, c, failure, tokens_eq, read, stops⟩
  · rw [parse_of_steps read, run_of_steps read]
    cases (tokenize text).fault with
    | some fault => exact .invalid fault
    | none =>
        simp only [readEnd]
        cases finished : c.finish p.limit with
        | ok f => exact .formula f
        | error failure => exact looksAt_of_finish read finished
  · rw [parse_of_stops tokens_eq read stops, run_of_stops tokens_eq read stops]
    exact looksAt_of_stops tokens_eq read stops

/-- An outcome tells one number of tokens. -/
theorem LooksAt.unique {p : Parser} {text : String} {outcome : Except Error Formula} {m n : Nat}
    (looks : p.LooksAt text outcome m) (looks' : p.LooksAt text outcome n) : m = n := by
  cases looks with
  | formula | invalid =>
      cases looks'
      rfl
  | ending cause stands =>
      cases looks' with
      | ending => rfl
      | unexpected _ _ stands' => cases stands.2.symm.trans stands'.2
      | unknownAgent cause' | tooDeep cause' => cases cause.symm.trans cause'
  | unexpected cause there stands =>
      cases looks' with
      | unexpected _ there' stands' =>
          rw [place_eq_of_offset_eq there there' (stands.1.symm.trans stands'.1)]
      | ending _ stands' => cases stands.2.symm.trans stands'.2
      | unknownAgent cause' | tooDeep cause' => cases cause.symm.trans cause'
  | unknownAgent cause there stands =>
      cases looks' with
      | unknownAgent _ there' stands' =>
          rw [place_eq_of_offset_eq there there' (stands.1.symm.trans stands'.1)]
      | ending cause' | unexpected cause' | tooDeep cause' => cases cause.symm.trans cause'
  | @tooDeep _ _ operator node start cause stands made =>
      cases looks' with
      | @tooDeep _ _ operator' node' start' _ stands' made' =>
          obtain ⟨place, there⟩ := made.exists_place
          obtain ⟨place', there'⟩ := made'.exists_place
          have same := place_eq_of_offset_eq there there' (stands.1.symm.trans stands'.1)
          rw [← same, there, Option.some.injEq] at there'
          subst there'
          rw [made.end_eq made' fun _ _ at_ at_' => place_eq_of_offset_eq at_ at_' rfl]
      | ending cause' | unexpected cause' | unknownAgent cause' =>
          cases cause.symm.trans cause'

end Parser

/-! ### What a level shows -/

/-- What a log writes of lines, each with the level from which on it is shown: those that a level
    shows, in order, each with a newline behind it. -/
def shownText (level : Level) : List (Level × String) → String
  | [] => ""
  | (threshold, line) :: lines =>
    if level.shows threshold then line ++ "\n" ++ shownText level lines else shownText level lines

theorem shownText_append (level : Level) (first second : List (Level × String)) :
    shownText level (first ++ second) = shownText level first ++ shownText level second := by
  induction first with
  | nil => exact String.empty_append.symm
  | cons entry first ih =>
      obtain ⟨threshold, line⟩ := entry
      rw [List.cons_append, shownText, shownText, ih]
      split
      · rw [← String.append_assoc]
      · rfl

/-- The lines of an event, each with the level from which on the event is shown. -/
def Event.levelledLines (event : Event) : List (Level × String) :=
  event.lines.map fun line => (event.threshold, line)

theorem foldl_lines_eq (level threshold : Level) (shows : level.shows threshold = true)
    (written : String) (lines : List String) :
    lines.foldl (fun written line => written ++ line ++ "\n") written =
      written ++ shownText level (lines.map fun line => (threshold, line)) := by
  induction lines generalizing written with
  | nil => exact String.append_empty.symm
  | cons line lines ih =>
      rw [List.foldl_cons, ih, List.map_cons, shownText, if_pos shows]
      simp only [String.append_assoc]

theorem shownText_of_not_shows {level threshold : Level} (hides : ¬ level.shows threshold = true)
    (lines : List String) : shownText level (lines.map fun line => (threshold, line)) = "" := by
  induction lines with
  | nil => rfl
  | cons line lines ih => rw [List.map_cons, shownText, if_neg hides, ih]

theorem Event.write_eq (level : Level) (event : Event) :
    event.write level = shownText level event.levelledLines := by
  unfold write levelledLines
  split
  · rename_i shows
    rw [foldl_lines_eq level event.threshold shows, String.empty_append]
  · rename_i hides
    exact (shownText_of_not_shows hides _).symm

theorem foldl_write_eq (level : Level) (written : String) (events : List Event) :
    events.foldl (fun written event => written ++ event.write level) written =
      written ++ shownText level (events.flatMap Event.levelledLines) := by
  induction events generalizing written with
  | nil => exact String.append_empty.symm
  | cons event events ih =>
      rw [List.foldl_cons, ih, List.flatMap_cons, shownText_append, Event.write_eq,
        String.append_assoc]

/-- A level leaves out the lines that it does not show, and changes nothing else. -/
theorem writeEvents_eq (level : Level) (events : List Event) :
    writeEvents level events = shownText level (events.flatMap Event.levelledLines) := by
  rw [writeEvents, foldl_write_eq, String.empty_append]

/-! ### The log of a parse -/

/-- The line of a token that is looked at. -/
def Token.logLine (t : Token) : Level × String :=
  (.debug, s!"[TOKEN] {t.kind.name} {quoted t.value} @ {t.offset}")

theorem Token.levelledLines_event (t : Token) : t.event.levelledLines = [t.logLine] := rfl

theorem Token.levelledLines_events (tokens : List Token) :
    (tokens.map Token.event).flatMap Event.levelledLines = tokens.map Token.logLine := by
  rw [List.flatMap_map, List.map_eq_flatMap]
  exact List.flatMap_congr fun t _ => t.levelledLines_event

namespace Parser

/-- The lines of how a parse ended: two for a formula, one for an error. -/
def endLines (text : String) : Except Error Formula → List (Level × String)
  | .ok f => [(.verbose, s!"[INFO] Parsed {quoted text}"), (.verbose, s!"  formula: {f.render}")]
  | .error error => [(.normal, s!"[ERROR] {error.message}")]

/-- The lines of a parse that looks at tokens of a text and ends with an outcome. -/
def logLines (text : String) (tokens : List Token) (outcome : Except Error Formula) :
    List (Level × String) :=
  (.debug, s!"[DEBUG] Parsing {quoted text}") ::
    (tokens.map Token.logLine ++ endLines text outcome)

theorem levelledLines_endEvent (text : String) (outcome : Except Error Formula) :
    (endEvent text outcome).levelledLines = endLines text outcome := by
  cases outcome with
  | ok f => rfl
  | error error => rfl

theorem levelledLines_events (p : Parser) (text : String) :
    (p.events text).flatMap Event.levelledLines =
      logLines text ((tokenize text).tokens.take (p.run text).seen) (p.parse text) := by
  have announced : (Event.debug s!"Parsing {quoted text}" []).levelledLines =
      [(.debug, s!"[DEBUG] Parsing {quoted text}")] := by
    have mark : "[" ++ "DEBUG" ++ "] " ++ ("Parsing " ++ quoted text) =
        "[DEBUG] Parsing " ++ quoted text := by
      rw [← String.append_assoc]
      rfl
    exact congrArg (fun line => [(Level.debug, line)]) mark
  rw [events, tokenEvents, ← List.map_take, List.flatMap_cons, List.flatMap_append, announced,
    Token.levelledLines_events, List.flatMap_singleton, levelledLines_endEvent]
  rfl

/-- The log of a parse tells what happened, filtered by the level. It is the announcement of the
    text, a line for each token that was looked at, and how the parse ended; the tokens are the
    first ones of the text, just as many as the outcome tells, and they are those that were asked
    for. -/
theorem parse_log_tells_course (p : Parser) (text : String) :
    ∃ seen, (∀ n, p.LooksAt text (p.parse text) n ↔ n = seen) ∧
      (p.demand text).answers.filterMap Stream.Answer.token? =
        (tokenize text).tokens.take seen ∧
      ∀ level : Level, writeEvents level (p.events text) =
        shownText level (logLines text ((tokenize text).tokens.take seen) (p.parse text)) := by
  refine ⟨(p.run text).seen, ?_, p.demand_tokens text, ?_⟩
  · intro n
    constructor
    · intro looks
      exact looks.unique (p.looksAt_run text)
    · rintro rfl
      exact p.looksAt_run text
  · intro level
    rw [writeEvents_eq, levelledLines_events]

end Parser

end ModalLanguage
