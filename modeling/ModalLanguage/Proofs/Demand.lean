/-
Module: ModalLanguage.Proofs.Demand
Purpose: Parsing on demand against parsing a list of tokens. What a stream will still answer is told
  by cutting the text that it has left (`Stream.remaining`), and each advance takes one token off the
  front. So a parse on demand ends as the parse of the whole text does. It asks for all tokens and
  then for the end when every token can be read, and otherwise for the tokens up to the first that
  cannot.
Main exports: TokenList.answers, Stream.remaining, Stream.remaining_eq, Parser.demandFrom_of_stops,
  Parser.demandFrom_of_steps, Parser.run_of_stops, Parser.run_of_steps, Parser.demand_of_stops,
  Parser.demand_of_steps, Parser.demand_outcome, Parser.demand_tokens
-/
import ModalLanguage.Parser.Demand
import ModalLanguage.Proofs.LongestMatch
import ModalLanguage.Proofs.Reading

namespace ModalLanguage

/-! ### What a stream still answers -/

namespace Stream.Answer

/-- The token that is answered, if one is. -/
def token? : Answer → Option Token
  | token t => some t
  | invalid _ => none
  | finished => none

theorem filterMap_map_token (tokens : List Token) :
    (tokens.map token).filterMap token? = tokens := by
  rw [List.filterMap_map]
  exact List.filterMap_some

end Stream.Answer

namespace TokenList

/-- What a stream answers behind its tokens. -/
def lastAnswer (list : TokenList) : Stream.Answer :=
  match list.fault with
  | some fault => .invalid fault
  | none => .finished

/-- The answers of a stream that is advanced to its end. -/
def answers (list : TokenList) : List Stream.Answer :=
  list.tokens.map .token ++ [list.lastAnswer]

theorem lastAnswer_ne_token (list : TokenList) (token : Token) :
    list.lastAnswer ≠ .token token := by
  unfold lastAnswer
  cases list.fault with
  | some | none => exact nofun

theorem filterMap_answers (list : TokenList) :
    list.answers.filterMap Stream.Answer.token? = list.tokens := by
  rw [answers, List.filterMap_append, Stream.Answer.filterMap_map_token, lastAnswer]
  cases list.fault with
  | some | none => exact List.append_nil _

/-- A stream that was asked to its end has answered more than tokens. -/
theorem answers_ne_map_token (list : TokenList) (tokens : List Token) :
    list.answers ≠ tokens.map .token := by
  intro same
  have last : list.lastAnswer ∈ tokens.map Stream.Answer.token := by
    rw [← same]
    exact List.mem_append_right _ (List.mem_singleton_self _)
  obtain ⟨token, -, isLast⟩ := List.mem_map.1 last
  exact list.lastAnswer_ne_token token isLast.symm

end TokenList

/-- The tokens of a text are the first one and those behind it. -/
theorem readTokens_eq (text : List Char) (offset : Nat) :
    readTokens [] text offset =
      match readToken text offset with
      | .token token rest =>
        (token :: (readTokens [] rest token.endOffset).1,
          (readTokens [] rest token.endOffset).2)
      | .invalid offset char => ([], some (offset, char))
      | .finished => ([], none) := by
  rw [readTokens]
  split <;> rename_i read
  · rename_i token rest
    obtain ⟨tokens, stop, cut⟩ := exists_cut rest token.endOffset
    simp only [read, cut.readTokens]
    rfl
  · rw [read]
    rfl
  · rw [read]
    rfl

namespace Stream

/-- The tokens that a stream has not answered yet, and the character that will end them early. -/
def remaining (s : Stream) : TokenList :=
  let (tokens, stop) := readTokens [] s.rest s.offset
  ⟨tokens, stop.map fun (offset, char) => ⟨offset, char, locate s.text offset⟩⟩

theorem remaining_ofText (text : String) : (ofText text).remaining = tokenize text := rfl

/-- An advance takes the first of the remaining tokens, and where none is left it tells why. -/
theorem remaining_eq (s : Stream) :
    s.remaining =
      match s.next with
      | (.token token, later) => ⟨token :: later.remaining.tokens, later.remaining.fault⟩
      | (.invalid fault, _) => ⟨[], some fault⟩
      | (.finished, _) => ⟨[], none⟩ := by
  rw [remaining, readTokens_eq, next]
  cases readToken s.rest s.offset with
  | token | invalid | finished => rfl

/-- Advancing a stream does not change its text. -/
theorem text_of_next {s later : Stream} {answer : Answer} (answered : s.next = (answer, later)) :
    later.text = s.text := by
  unfold next at answered
  split at answered <;> cases answered <;> rfl

theorem exists_next_of_remaining {s : Stream} {token : Token} {rest : List Token}
    (front : s.remaining.tokens = token :: rest) :
    ∃ later, s.next = (.token token, later) ∧ later.text = s.text ∧
      later.remaining = ⟨rest, s.remaining.fault⟩ := by
  rw [remaining_eq] at front ⊢
  cases answered : s.next with
  | mk answer later =>
      rw [answered] at front
      cases answer with
      | token token' =>
          obtain ⟨rfl, rfl⟩ := List.cons.inj front
          exact ⟨later, rfl, text_of_next answered, rfl⟩
      | invalid | finished => cases front

end Stream

/-! ### The course of a parse on demand -/

namespace Parser

variable {p : Parser} {c next : Configuration} {s : Stream}

theorem demandFrom_token {later : Stream} {token : Token}
    (answered : s.next = (.token token, later)) (taken : c.step p.limit token = .ok next) :
    p.demandFrom c s =
      ⟨.token token :: (p.demandFrom next later).answers, (p.demandFrom next later).outcome⟩ := by
  rw [demandFrom]
  split <;> simp_all

theorem demandFrom_stop {later : Stream} {token : Token} {failure : Failure}
    (answered : s.next = (.token token, later)) (stops : c.step p.limit token = .error failure) :
    p.demandFrom c s = ⟨[.token token], .error (p.report s.text (.failure failure))⟩ := by
  rw [demandFrom]
  split <;> simp_all

/-- Where no token is left, the end is asked for once and then read. -/
theorem demandFrom_end (noToken : s.remaining.tokens = []) :
    p.demandFrom c s =
      ⟨s.remaining.answers, (readEnd p.limit s.remaining.fault c).mapError (p.report s.text)⟩ := by
  rw [s.remaining_eq] at noToken ⊢
  rw [demandFrom]
  split <;> rename_i answered
  · rw [answered] at noToken
    cases noToken
  · rw [answered]
    rfl
  · rw [answered, readEnd]
    cases c.finish p.limit with
    | error failure => rfl
    | ok f => rfl

/-- A token that cannot be read ends a parse on demand: it was asked for last. -/
theorem demandFrom_of_stops {before after : List Token} {token : Token} {failure : Failure}
    (tokens_eq : s.remaining.tokens = before ++ token :: after)
    (read : c.steps p.limit before = .ok next) (stops : next.step p.limit token = .error failure) :
    p.demandFrom c s =
      ⟨(before ++ [token]).map .token, .error (p.report s.text (.failure failure))⟩ := by
  induction before generalizing c s with
  | nil =>
      cases read
      obtain ⟨later, answered, -, -⟩ := Stream.exists_next_of_remaining tokens_eq
      exact demandFrom_stop answered stops
  | cons first before ih =>
      obtain ⟨later, answered, text_eq, later_eq⟩ := Stream.exists_next_of_remaining tokens_eq
      obtain ⟨middle, taken, readRest⟩ := Configuration.exists_step_of_steps read
      rw [demandFrom_token answered taken, ih (congrArg TokenList.tokens later_eq) readRest, text_eq]
      rfl

/-- When every token can be read, all of them are asked for, and then the end. -/
theorem demandFrom_of_steps (read : c.steps p.limit s.remaining.tokens = .ok next) :
    p.demandFrom c s =
      ⟨s.remaining.answers,
        (readEnd p.limit s.remaining.fault next).mapError (p.report s.text)⟩ := by
  generalize tokens_eq : s.remaining.tokens = tokens at read
  induction tokens generalizing c s with
  | nil =>
      cases read
      exact demandFrom_end tokens_eq
  | cons first rest ih =>
      obtain ⟨later, answered, text_eq, later_eq⟩ := Stream.exists_next_of_remaining tokens_eq
      obtain ⟨middle, taken, readRest⟩ := Configuration.exists_step_of_steps read
      have others := ih (congrArg TokenList.tokens later_eq) readRest
      rw [later_eq, text_eq] at others
      rw [demandFrom_token answered taken, others, TokenList.answers, TokenList.answers, tokens_eq]
      rfl

/-! ### The course of reading a list of tokens -/

theorem readFormula_of_stops {limit : Limit} {fault : Option InvalidCharacter}
    {before after : List Token} {token : Token} {failure : Failure} (seen : Nat)
    (read : c.steps limit before = .ok next) (stops : next.step limit token = .error failure) :
    readFormula limit fault c (before ++ token :: after) seen =
      ⟨seen + before.length + 1, .error (.failure failure)⟩ := by
  induction before generalizing c seen with
  | nil =>
      cases read
      rw [List.nil_append, readFormula, stops]
      rfl
  | cons first before ih =>
      obtain ⟨middle, taken, readRest⟩ := Configuration.exists_step_of_steps read
      rw [List.cons_append, readFormula, taken]
      simp only
      rw [ih (seen + 1) readRest, List.length_cons, Nat.add_assoc seen 1, Nat.add_comm 1]

theorem readFormula_of_steps {limit : Limit} {fault : Option InvalidCharacter}
    {tokens : List Token} (seen : Nat) (read : c.steps limit tokens = .ok next) :
    readFormula limit fault c tokens seen =
      ⟨seen + tokens.length, readEnd limit fault next⟩ := by
  induction tokens generalizing c seen with
  | nil =>
      cases read
      rfl
  | cons first rest ih =>
      obtain ⟨middle, taken, readRest⟩ := Configuration.exists_step_of_steps read
      rw [readFormula, taken]
      simp only
      rw [ih (seen + 1) readRest, List.length_cons, Nat.add_assoc, Nat.add_comm 1]

/-! ### Both courses for a whole text -/

section Stops

variable {text : String} {before after : List Token} {token : Token} {failure : Failure}
  (tokens_eq : (tokenize text).tokens = before ++ token :: after)
  (read : Configuration.start.steps p.limit before = .ok c)
  (stops : c.step p.limit token = .error failure)

include tokens_eq read stops

theorem run_of_stops : p.run text = ⟨before.length + 1, .error (.failure failure)⟩ := by
  rw [run, tokens_eq, readFormula_of_stops 0 read stops, Nat.zero_add]

theorem parse_of_stops : p.parse text = .error (.parse (failure.report text p.limit)) := by
  rw [parse, run_of_stops tokens_eq read stops]
  rfl

theorem demand_of_stops :
    p.demand text =
      ⟨(before ++ [token]).map .token, .error (.parse (failure.report text p.limit))⟩ :=
  demandFrom_of_stops tokens_eq read stops

end Stops

section Steps

variable {text : String} (read : Configuration.start.steps p.limit (tokenize text).tokens = .ok c)

include read

theorem run_of_steps :
    p.run text = ⟨(tokenize text).tokens.length, readEnd p.limit (tokenize text).fault c⟩ := by
  rw [run, readFormula_of_steps 0 read, Nat.zero_add]

theorem parse_of_steps :
    p.parse text = (readEnd p.limit (tokenize text).fault c).mapError (p.report text) := by
  rw [parse, run_of_steps read]

theorem demand_of_steps :
    p.demand text =
      ⟨(tokenize text).answers,
        (readEnd p.limit (tokenize text).fault c).mapError (p.report text)⟩ :=
  demandFrom_of_steps read

end Steps

/-- A parse on demand ends as the parse of the list of all tokens does. -/
theorem demand_outcome (p : Parser) (text : String) : (p.demand text).outcome = p.parse text := by
  rcases Configuration.steps_cases p.limit .start (tokenize text).tokens with
    ⟨c, read⟩ | ⟨before, token, after, c, failure, tokens_eq, read, stops⟩
  · rw [demand_of_steps read, parse_of_steps read]
  · rw [demand_of_stops tokens_eq read stops, parse_of_stops tokens_eq read stops]

/-- The tokens that a parse on demand asks for are those that a parse of the list looks at. -/
theorem demand_tokens (p : Parser) (text : String) :
    (p.demand text).answers.filterMap Stream.Answer.token? =
      (tokenize text).tokens.take (p.run text).seen := by
  rcases Configuration.steps_cases p.limit .start (tokenize text).tokens with
    ⟨c, read⟩ | ⟨before, token, after, c, failure, tokens_eq, read, stops⟩
  · rw [demand_of_steps read, run_of_steps read, TokenList.filterMap_answers, List.take_length]
  · have front : (before ++ token :: after).take (before.length + 1) = before ++ [token] := by
      rw [List.take_length_add_append]
      rfl
    rw [demand_of_stops tokens_eq read stops, run_of_stops tokens_eq read stops,
      Stream.Answer.filterMap_map_token, tokens_eq, front]

end Parser

end ModalLanguage
