/-
Module: ModalLanguage.Proofs.ErrorAnchors
Purpose: Every error points at what it names. An invalid character stands where the tokens end and
  nothing can be cut; an error at a token gives the offset and the text of a token of the text; and an
  error without a token stands at the end, with every token read. For the name of an unknown agent
  what has been read tells that an underscore stands in front of it and that all agents before are
  known (`Opened.agentsNamed_append`); for an operator that is too deep it tells that the operator is
  among the tokens that were read (`Applied.exists_place`).
Main exports: Kind.isOperator, Opened.agentsNamed_append, Tree.mem_tokens_of_root?,
  Applied.exists_place, Parser.PointsAt, Parser.errors_point_at_what_they_name
-/
import ModalLanguage.Proofs.Coverage
import ModalLanguage.Proofs.Recognition

namespace ModalLanguage

/-- The kinds of tokens that make a formula of their operands. -/
def Kind.isOperator : Kind → Bool
  | negation => true
  | conjunction => true
  | disjunction => true
  | implication => true
  | biconditional => true
  | box => true
  | diamond => true
  | universal => true
  | existential => true
  | _ => false

/-! ### Agents and operators among the tokens that were read -/

/-- Frames are only opened by operators whose agents are known. -/
theorem Opened.agentsNamed_append {frames : List Frame} {tokens : List Token}
    (opened : Opened frames tokens) (rest : List Token) :
    AgentsNamed (tokens ++ rest) ↔ AgentsNamed rest := by
  induction opened generalizing rest with
  | start => rfl
  | bracket outer isOpening ih =>
      rw [List.append_assoc, ih, List.singleton_append, agentsNamed_cons (by simp [isOpening])]
  | negation outer isOp fits ih =>
      rw [List.append_assoc, ih, List.singleton_append, agentsNamed_cons (by simp [isOp])]
  | @modal frames tokens modality op outer isOp ih =>
      have plain : op.kind ≠ .underscore := by rw [isOp]; cases modality <;> decide
      rw [List.append_assoc, ih, List.singleton_append, agentsNamed_cons plain]
  | @indexed frames tokens modality op mark name agent outer isOp isMark isName known ih =>
      have plain : op.kind ≠ .underscore := by rw [isOp]; cases modality <;> decide
      have plainName : name.kind ≠ .underscore := by
        rcases isName with isName | isName <;> simp [isName]
      rw [List.append_assoc, ih]
      simp only [List.cons_append, List.nil_append]
      rw [agentsNamed_cons plain, agentsNamed_underscore isMark, agentsNamed_cons plainName, known]
      simp
  | @wide frames tokens quantifier op bound dot outer isOp isBound isDot ih =>
      have plain : op.kind ≠ .underscore := by rw [isOp]; cases quantifier <;> decide
      rw [List.append_assoc, ih]
      simp only [List.cons_append, List.nil_append]
      rw [agentsNamed_cons plain, agentsNamed_cons (by simp [isBound]),
        agentsNamed_cons (by simp [isDot])]
  | @narrow frames tokens quantifier op bound outer isOp isBound ih =>
      have plain : op.kind ≠ .underscore := by rw [isOp]; cases quantifier <;> decide
      rw [List.append_assoc, ih]
      simp only [List.cons_append, List.nil_append]
      rw [agentsNamed_cons plain, agentsNamed_cons (by simp [isBound])]
  | @binary frames tokens op token left outer isOp known widest fits ih =>
      have plain : token.kind ≠ .underscore := by rw [isOp]; cases op <;> decide
      rw [List.append_assoc, ih, List.append_assoc, left.agentsNamed_append,
        List.singleton_append, agentsNamed_cons plain, and_iff_right known]

/-- In front of the name of an agent stands an underscore, behind tokens whose agents are known. -/
theorem Reads.agent_marked {frames : List Frame} {op name : Token} {modality : Modality}
    {tokens : List Token} (reads : Reads ⟨frames, .agent op modality name⟩ tokens) :
    ∃ before mark, tokens = before ++ [mark, name] ∧ mark.kind = .underscore ∧
      (name.kind = .letter ∨ name.kind = .agent) ∧ AgentsNamed (before ++ [mark]) := by
  cases reads with
  | @agent _ tokens _ _ mark _ opened isOp isMark isName =>
      have plain : op.kind ≠ .underscore := by rw [isOp]; cases modality <;> decide
      refine ⟨tokens ++ [op], mark, by simp, isMark, isName, ?_⟩
      rw [List.append_assoc, opened.agentsNamed_append, List.singleton_append,
        agentsNamed_cons plain]
      exact .singleton mark

/-- The operator that makes a tree of its operands is one of the tree's tokens. -/
theorem Tree.mem_tokens_of_root? {s : Stratum} {t : Tree s} {operator : Token}
    (root : t.root? = some operator) : operator ∈ t.tokens ∧ operator.kind.isOperator = true := by
  induction t with
  | whole body ih | ofImplication body ih | ofDisjunction body ih | ofConjunction body ih
  | ofUnary body ih | ofTight body ih => exact ih root
  | biconditional left op isOp | implication left op isOp | disjunction left op isOp
  | conjunction left op isOp =>
      cases root
      exact ⟨List.mem_append_right _ List.mem_cons_self, by rw [isOp]; rfl⟩
  | negation op isOp =>
      cases root
      exact ⟨List.mem_cons_self, by rw [isOp]; rfl⟩
  | modal modality op isOp | indexed modality op isOp =>
      cases root
      exact ⟨List.mem_cons_self, by rw [isOp]; cases modality <;> rfl⟩
  | wide quantifier op isOp | narrow quantifier op isOp =>
      cases root
      exact ⟨List.mem_cons_self, by rw [isOp]; cases quantifier <;> rfl⟩
  | predicate | atom | constant | bracketed => cases root

/-- An operator that was just applied is among the tokens that were read. -/
theorem Applied.exists_place {next : Follower} {operator : Token} {phrase : Phrase}
    {read : List Token} (applied : Applied next operator phrase read) :
    operator.kind.isOperator = true ∧ ∃ place : Nat, read[place]? = some operator := by
  obtain ⟨tree, opened, fits, known, widest, precedes, root⟩ := applied
  obtain ⟨member, isOperator⟩ := Tree.mem_tokens_of_root? root
  exact ⟨isOperator, List.mem_iff_getElem?.1 (List.mem_append_right _ member)⟩

/-- An operator that completing makes too deep is among the tokens that were read. -/
theorem Reads.exists_place_of_tooDeep {limit : Limit} {c : Configuration} {tokens : List Token}
    {phrase : Formula} {next : Follower} {operator : Token} (reads : Reads c tokens)
    (complete : c.phrase? = some phrase)
    (failed : closeFrames limit next c.frames phrase false = .error (.tooDeep operator)) :
    operator.kind.isOperator = true ∧ ∃ place : Nat, tokens[place]? = some operator := by
  obtain ⟨whole, applied, -⟩ := closeFrames_tooDeep (reads.pending complete next) failed
  exact applied.exists_place

/-! ### What an error points at -/

/-- What the token at a place has to be when an error of some cause stands at it. -/
def ParseError.Cause.Names (cause : Cause) (limit : Limit) (tokens : List Token) (place : Nat)
    (token : Token) : Prop :=
  match cause with
  | .unexpected => True
  | .unknownAgent name =>
    name = token.value ∧ token.kind = .letter ∧ Agent.ofName? token.value = none ∧
      AgentsNamed (tokens.take place) ∧
      ∃ before mark, tokens.take place = before ++ [mark] ∧ mark.kind = .underscore
  | .tooDeep bound => bound = limit ∧ token.kind.isOperator = true
  | .stated _ => False

namespace Parser

/-- An error of a parser points into a text. -/
inductive PointsAt (p : Parser) (text : String) : Error → Prop where
  /-- A character of the text with which no kind of token begins. In front of it the text is tokens
      and blanks. -/
  | invalid {fault : InvalidCharacter}
      (there : text.toList[fault.offset]? = some fault.char)
      (inFront : ∀ place c, place < fault.offset → text.toList[place]? = some c →
        (∃ token ∈ (tokenize text).tokens, token.Spans place) ∨ isBlank c = true)
      (ends : ∀ token ∈ (tokenize text).tokens, token.endOffset ≤ fault.offset)
      (noToken : ∀ (kind : Kind) (value : List Char), value <+: text.toList.drop fault.offset →
        ¬ kind.Spells value)
      (position : fault.position = locate text fault.offset) : PointsAt p text (.invalid fault)
  /-- A token of the text, which is what the cause says. -/
  | token {e : ParseError} {place : Nat} {token : Token}
      (there : (tokenize text).tokens[place]? = some token) (stands : e.StandsAt token)
      (written : token.StandsIn text)
      (names : e.cause.Names p.limit (tokenize text).tokens place token)
      (position : e.position = locate text e.offset) : PointsAt p text (.parse e)
  /-- The end of a text, of which all tokens were asked for and then the end. -/
  | ending {e : ParseError} (cause : e.cause = .unexpected) (stands : e.StandsAtEnd text)
      (consumed : (p.demand text).answers = (tokenize text).tokens.map .token ++ [.finished])
      (position : e.position = locate text e.offset) : PointsAt p text (.parse e)

theorem pointsAt_invalid (p : Parser) {text : String} {fault : InvalidCharacter}
    (found : (tokenize text).fault = some fault) : p.PointsAt text (.invalid fault) := by
  obtain ⟨cut, position⟩ := cut_of_fault found
  obtain ⟨⟨before, after, text_eq, offset_eq, -, noMatch⟩, ends⟩ := cut.exists_stop
  rw [Nat.zero_add] at offset_eq
  refine .invalid ?_ ?_ ends ?_ position
  · rw [text_eq, offset_eq]
    simp
  · intro place c inFront there
    refine spans_or_blank_of_tokenize there ?_
    intro fault' found'
    rw [found] at found'
    cases found'
    exact inFront
  · intro kind value begins
    rw [text_eq, offset_eq, List.drop_left] at begins
    exact not_spells_of_lexeme? ((lexeme?_eq_none_iff _).2 noMatch) begins

/-- A failure at a token is reported at it. -/
theorem pointsAt_token {p : Parser} {text : String} {e : ParseError} {place : Nat} {token : Token}
    (there : (tokenize text).tokens[place]? = some token) (stands : e.StandsAt token)
    (names : e.cause.Names p.limit (tokenize text).tokens place token)
    (position : e.position = locate text e.offset) : p.PointsAt text (.parse e) :=
  .token there stands (standsIn_of_mem_tokenize (List.mem_of_getElem? there)) names position

section Stops

variable {p : Parser} {text : String} {c : Configuration} {failure : Failure}

/-- The report of a step that fails. -/
theorem pointsAt_of_stops {before after : List Token} {token : Token}
    (tokens_eq : (tokenize text).tokens = before ++ token :: after)
    (read : Configuration.start.steps p.limit before = .ok c)
    (stops : c.step p.limit token = .error failure) :
    p.PointsAt text (.parse (failure.report text p.limit)) := by
  have reads : Reads c before := reads_start.steps read
  have inside {place : Nat} {t : Token} (there : before[place]? = some t) :
      (tokenize text).tokens[place]? = some t := by
    rw [tokens_eq, List.getElem?_append_left (List.getElem?_eq_some_iff.1 there).1]
    exact there
  cases Configuration.step_error stops with
  | unexpected refused =>
      have there : (tokenize text).tokens[before.length]? = some token := by
        rw [tokens_eq]
        simp
      exact pointsAt_token there ⟨rfl, rfl⟩ trivial rfl
  | @unknownAgent op name modality focus unknown =>
      obtain ⟨frames, focus'⟩ := c
      cases focus
      obtain ⟨front, mark, rfl, isMark, isName, named⟩ := reads.agent_marked
      have there : (tokenize text).tokens[front.length + 1]? = some name := inside (by simp)
      have inFront : (tokenize text).tokens.take (front.length + 1) = front ++ [mark] := by
        rw [tokens_eq, List.append_assoc, List.take_length_add_append]
        rfl
      have isLetter : name.kind = .letter :=
        isName.resolve_right (kind_ne_agent_of_mem_tokenize (List.mem_of_getElem? there))
      refine pointsAt_token there ⟨rfl, rfl⟩ ⟨rfl, isLetter, unknown, ?_, ?_⟩ rfl
      · rw [inFront]
        exact named
      · exact ⟨front, mark, inFront, isMark⟩
  | tooDeep complete failed =>
      obtain ⟨isOperator, place, there⟩ := reads.exists_place_of_tooDeep complete failed
      exact pointsAt_token (inside there) ⟨rfl, rfl⟩ ⟨rfl, isOperator⟩ rfl

/-- The report of an end that fails. -/
theorem pointsAt_of_finish (noFault : (tokenize text).fault = none)
    (read : Configuration.start.steps p.limit (tokenize text).tokens = .ok c)
    (failed : c.finish p.limit = .error failure) :
    p.PointsAt text (.parse (failure.report text p.limit)) := by
  have reads : Reads c (tokenize text).tokens := reads_start.steps read
  rcases Configuration.finish_error failed with ⟨rfl, -⟩ | ⟨phrase, operator, complete, rfl, deep⟩
  · refine .ending rfl ⟨rfl, rfl⟩ ?_ rfl
    rw [demand_of_steps read, TokenList.answers, TokenList.lastAnswer, noFault]
  · obtain ⟨isOperator, place, there⟩ := reads.exists_place_of_tooDeep complete deep
    exact pointsAt_token there ⟨rfl, rfl⟩ ⟨rfl, isOperator⟩ rfl

end Stops

/-- Every error points at what it names: at a character that begins no token, at a token of the text
    that is what the error says of it, or at the end of a text that was read as a whole. -/
theorem errors_point_at_what_they_name (p : Parser) (text : String) (error : Error)
    (failed : p.parse text = .error error) : p.PointsAt text error := by
  cases error with
  | invalid fault => exact p.pointsAt_invalid (fault_of_parse_eq_invalid failed)
  | parse e =>
      obtain ⟨failure, rfl, stops⟩ := parse_eq_parseError failed
      rcases stops with ⟨before, token, after, c, tokens_eq, read, stops⟩ | ⟨c, noFault, read, stops⟩
      · exact pointsAt_of_stops tokens_eq read stops
      · exact pointsAt_of_finish noFault read stops

/-- The second agent is unknown, and its error stands at it although a bracket behind it is read
    first. -/
theorem unknown_agent_points_at_name :
    ∃ e, standard.parse "[]_a\n<>_f (p" = .error (.parse e) ∧ e.cause = .unknownAgent "f" ∧
      e.position = ⟨2, 4⟩ ∧ standard.PointsAt "[]_a\n<>_f (p" (.parse e) := by
  have stopped : (standard.run "[]_a\n<>_f (p").outcome =
      .error (.failure (.unknownAgent ⟨.letter, "f", 8⟩)) := by
    decide +kernel
  have failed : standard.parse "[]_a\n<>_f (p" =
      .error (.parse (Failure.report "[]_a\n<>_f (p" .standard
        (.unknownAgent ⟨.letter, "f", 8⟩))) := by
    rw [parse, stopped]
    rfl
  exact ⟨_, failed, rfl, by decide +kernel, errors_point_at_what_they_name standard _ _ failed⟩

end Parser

end ModalLanguage
