/-
Module: ModalLanguage.Proofs.Online
Purpose: Parsing is online. An error at a token is told from the tokens that were asked for so far
  and from where they stand: what follows the last of them, invalid characters included, has no say
  in it. The tokens read so far carry the failure, which names one of them (`report_congr`); tokens
  stand in order, so two texts that agree up to the end of the last token place all of them alike
  (`locate_eq_of_take_eq`). A character that begins no token is named just when all tokens in front
  of it can be read.
Main exports: Cut.pairwise, locate_eq_of_take_eq, report_congr, Parser.parse_is_online
-/
import ModalLanguage.Proofs.Demand
import ModalLanguage.Proofs.Lockstep

namespace ModalLanguage

/-! ### Where tokens stand -/

theorem Token.offset_le_endOffset (t : Token) : t.offset ≤ t.endOffset := Nat.le_add_right _ _

theorem Cut.offset_le {text : List Char} {offset : Nat} {tokens : List Token}
    {stop : Option (Nat × Char)} (cut : Cut text offset tokens stop) {token : Token}
    (member : token ∈ tokens) : offset ≤ token.offset := by
  induction cut with
  | finished | invalid => cases member
  | blank blank cut ih => exact (Nat.le_succ _).trans (ih member)
  | token longest cut ih =>
      rcases List.mem_cons.1 member with rfl | behind
      · exact Nat.le_refl _
      · exact (Nat.le_add_right _ _).trans (ih behind)

/-- Every token ends before those behind it begin. -/
theorem Cut.pairwise {text : List Char} {offset : Nat} {tokens : List Token}
    {stop : Option (Nat × Char)} (cut : Cut text offset tokens stop) :
    tokens.Pairwise fun first later => first.endOffset ≤ later.offset := by
  induction cut with
  | finished | invalid => exact .nil
  | blank blank cut ih => exact ih
  | @token value rest kind offset tokens stop longest cut ih =>
      refine .cons ?_ ih
      intro later behind
      have begins := cut.offset_le behind
      rwa [Token.endOffset, String.length_ofList]

/-- Every token of a text has characters of its own. -/
theorem offset_lt_endOffset {text : String} {token : Token}
    (member : token ∈ (tokenize text).tokens) : token.offset < token.endOffset := by
  obtain ⟨stop, cut⟩ := cut_tokenize text
  obtain ⟨rest, value, longest, value_eq⟩ := cut.exists_longest member
  rw [Token.endOffset, value_eq, String.length_ofList]
  exact Nat.lt_add_of_pos_right (List.length_pos_iff.2 longest.spells.ne_nil)

/-- No two tokens of a text begin at one offset. -/
theorem place_eq_of_offset_eq {text : String} {place place' : Nat} {token token' : Token}
    (there : (tokenize text).tokens[place]? = some token)
    (there' : (tokenize text).tokens[place']? = some token')
    (same : token.offset = token'.offset) : place = place' := by
  obtain ⟨stop, cut⟩ := cut_tokenize text
  have ordered := List.pairwise_iff_getElem.1 cut.pairwise
  obtain ⟨inside, rfl⟩ := List.getElem?_eq_some_iff.1 there
  obtain ⟨inside', rfl⟩ := List.getElem?_eq_some_iff.1 there'
  have long := offset_lt_endOffset (List.getElem_mem inside)
  have long' := offset_lt_endOffset (List.getElem_mem inside')
  rcases Nat.lt_trichotomy place place' with before | equal | behind
  · have ends := ordered place place' inside inside' before
    omega
  · exact equal
  · have ends := ordered place' place inside' inside behind
    omega

/-- The tokens in front of a token begin where that one has not ended yet, and so does it. -/
theorem offset_le_of_tokenize {text : String} {before after : List Token} {last token : Token}
    (tokens_eq : (tokenize text).tokens = before ++ last :: after)
    (member : token ∈ before ++ [last]) : token.offset ≤ last.endOffset := by
  obtain ⟨stop, cut⟩ := cut_tokenize text
  have ordered := cut.pairwise
  rw [tokens_eq, List.pairwise_append] at ordered
  rcases List.mem_append.1 member with inBefore | isLast
  · have ends := ordered.2.2 token inBefore last List.mem_cons_self
    exact (token.offset_le_endOffset.trans ends).trans last.offset_le_endOffset
  · rw [List.mem_singleton.1 isLast]
    exact last.offset_le_endOffset

/-- Walking `n` characters looks at the first `n` characters. -/
theorem Position.walk_take (text : List Char) (n : Nat) (p : Position) :
    walk (text.take n) n p = walk text n p := by
  induction text generalizing n p with
  | nil => rw [List.take_nil]
  | cons c cs ih =>
      cases n with
      | zero => rfl
      | succ n => exact ih n (p.after c)

/-- Where two texts begin with the same characters, offsets among these stand at one place. -/
theorem locate_eq_of_take_eq {text text' : String} {n offset : Nat}
    (same : text'.toList.take n = text.toList.take n) (inside : offset ≤ n) :
    locate text' offset = locate text offset := by
  have front : text'.toList.take offset = text.toList.take offset := by
    have cut := congrArg (List.take offset) same
    rwa [List.take_take, List.take_take, Nat.min_eq_left inside] at cut
  rw [locate, ← Position.walk_take, front, Position.walk_take, locate]

/-! ### The report of a failure -/

/-- A failure at a token is reported alike in two texts that place the tokens read so far alike. -/
theorem report_congr {text text' : String} {limit : Limit} {before : List Token} {token : Token}
    {c : Configuration} {failure : Failure}
    (read : Configuration.start.steps limit before = .ok c)
    (stops : c.step limit token = .error failure)
    (places : ∀ t ∈ before ++ [token], locate text' t.offset = locate text t.offset) :
    failure.report text' limit = failure.report text limit := by
  -- The reading runs beside itself; the relation remembers that its tokens are among these.
  let R (t t' : Token) : Prop := t = t' ∧ t ∈ before ++ [token]
  have keeps : KeepsNames R :=
    ⟨fun related => congrArg Token.kind related.1, fun related _ => congrArg Token.value related.1⟩
  have started : Configuration.start.Agrees R .start := ⟨.nil, .operand⟩
  have all : List.Forall₂ R before before := by
    rw [List.forall₂_same]
    intro t member
    exact ⟨rfl, List.mem_append_left _ member⟩
  have reads := started.steps keeps limit all
  rw [read] at reads
  cases reads with
  | ok agrees =>
      have isLast : R token token := ⟨rfl, List.mem_append_right _ (List.mem_singleton_self _)⟩
      have fails := agrees.step keeps isLast limit
      rw [stops] at fails
      cases fails with
      | error failures =>
          cases failures with
          | unexpected related => simp only [Failure.report, ParseError.inText, places _ related.2]
          | ending => cases Configuration.step_error stops
          | unknownAgent related =>
              simp only [Failure.report, ParseError.inText, places _ related.2]
          | tooDeep related => simp only [Failure.report, ParseError.inText, places _ related.2]

/-! ### Two continuations -/

/-- When a list ends with its element at a place, what stands in front of that is known. -/
theorem eq_append_of_take_succ {tokens before : List Token} {place : Nat} {token last : Token}
    (front : before ++ [token] = tokens.take (place + 1)) (there : tokens[place]? = some last) :
    before = tokens.take place ∧ token = last := by
  rw [List.take_add_one, there, Option.toList_some] at front
  obtain ⟨before_eq, token_eq⟩ := List.append_inj' front rfl
  exact ⟨before_eq, List.singleton_inj.1 token_eq⟩

namespace Parser

/-- Parsing is online. On demand it ends as it does with all tokens at hand. When it fails while the
    token at a place is the last that it has asked for, every text with the same characters up to
    the end of that token and the same tokens up to it makes it ask for the same tokens and fail
    with the same error. And the character that ends the tokens of a text is its error just when all
    tokens in front of it can be read. -/
theorem parse_is_online (p : Parser) (text : String) :
    (p.demand text).outcome = p.parse text ∧
      (∀ (e : ParseError) (place : Nat) (last : Token), p.parse text = .error (.parse e) →
        (tokenize text).tokens[place]? = some last →
        (p.demand text).answers = ((tokenize text).tokens.take (place + 1)).map .token →
        ∀ text' : String,
          text'.toList.take last.endOffset = text.toList.take last.endOffset →
          (tokenize text').tokens.take (place + 1) = (tokenize text).tokens.take (place + 1) →
          p.parse text' = .error (.parse e) ∧
            (p.demand text').answers = (p.demand text).answers) ∧
      ∀ fault : InvalidCharacter, (tokenize text).fault = some fault →
        (p.parse text = .error (.invalid fault) ↔
          ∃ c, Configuration.start.steps p.limit (tokenize text).tokens = .ok c) := by
  refine ⟨p.demand_outcome text, ?_, ?_⟩
  · intro e place last failed there asked text' sameCharacters sameTokens
    rcases Configuration.steps_cases p.limit .start (tokenize text).tokens with
      ⟨c, read⟩ | ⟨before, token, after, c, failure, tokens_eq, read, stops⟩
    · rw [demand_of_steps read] at asked
      exact absurd asked (TokenList.answers_ne_map_token _ _)
    · rw [demand_of_stops tokens_eq read stops] at asked
      have injective : Function.Injective Stream.Answer.token := by
        intro first second same
        exact Stream.Answer.token.inj same
      have front := injective.list_map asked
      obtain ⟨rfl, rfl⟩ := eq_append_of_take_succ front there
      -- The other text has the same tokens up to the one that fails.
      have tokens_eq' : (tokenize text').tokens =
          (tokenize text).tokens.take place ++
            token :: (tokenize text').tokens.drop (place + 1) := by
        rw [List.append_cons, front, ← sameTokens, List.take_append_drop]
      have same := report_congr read stops fun t member =>
        locate_eq_of_take_eq sameCharacters (offset_le_of_tokenize tokens_eq member)
      rw [parse_of_stops tokens_eq read stops] at failed
      rw [parse_of_stops tokens_eq' read stops, same, demand_of_stops tokens_eq' read stops,
        demand_of_stops tokens_eq read stops]
      exact ⟨failed, rfl⟩
  · intro fault found
    rw [parse_eq, found]
    cases Configuration.start.steps p.limit (tokenize text).tokens with
    | ok c => exact ⟨fun _ => ⟨c, rfl⟩, fun _ => rfl⟩
    | error failure => simp

/-- The name of an agent is looked at when its operand begins, so a character behind the operand
    that begins no token comes too late. -/
theorem parse_is_online_unknown_agent :
    (∃ e, e.cause = .unknownAgent "e" ∧ standard.parse "[]_e p $" = .error (.parse e) ∧
      standard.parse "[]_e p & q" = .error (.parse e)) ∧
      ¬ ∃ c, Configuration.start.steps standard.limit (tokenize "[]_e p $").tokens = .ok c := by
  have stopped : (standard.run "[]_e p $").outcome =
      .error (.failure (.unknownAgent ⟨.letter, "e", 3⟩)) := by
    decide +kernel
  have failed : standard.parse "[]_e p $" =
      .error (.parse (Failure.report "[]_e p $" .standard (.unknownAgent ⟨.letter, "e", 3⟩))) := by
    rw [parse, stopped]
    rfl
  have asked : (standard.demand "[]_e p $").answers =
      ((tokenize "[]_e p $").tokens.take (3 + 1)).map .token := by
    decide +kernel
  have last : (tokenize "[]_e p $").tokens[3]? = some ⟨.letter, "p", 5⟩ := by
    decide +kernel
  have fault : (tokenize "[]_e p $").fault = some ⟨7, '$', ⟨1, 8⟩⟩ := by
    decide +kernel
  obtain ⟨-, continued, invalid⟩ := parse_is_online standard "[]_e p $"
  constructor
  · have same := continued _ 3 _ failed last asked "[]_e p & q" (by decide +kernel)
      (by decide +kernel)
    exact ⟨_, rfl, failed, same.1⟩
  · rw [← invalid _ fault, failed]
    simp

end Parser

end ModalLanguage
