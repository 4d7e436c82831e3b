/-
Module: ModalLanguage.Proofs.SyntaxError
Purpose: A syntax error stands at the first token that cannot continue, and it names exactly what
  can. A lookahead continues a list of kinds when some formula begins with these kinds and it, or is
  complete where the text ends. Behind tokens that were all read, a configuration admits the
  lookaheads that continue their kinds, neither more nor fewer.
Main exports: Continues, Configuration.admits_iff_continues, ParseError.FirstMistake,
  Parser.syntax_error_at_first_mistake
-/
import ModalLanguage.Proofs.Recognition

namespace ModalLanguage

/-- Whether a formula can go on with the lookahead behind tokens of the given kinds. -/
def Continues (kinds : List Kind) : Lookahead → Prop
  | .token kind => Viable (kinds ++ [kind])
  | .ending => Complete kinds

/-- The outline of a configuration that a reading has reached. -/
theorem outline_of_steps {limit : Limit} {tokens : List Token} {c : Configuration}
    (read : Configuration.start.steps limit tokens = .ok c) :
    Outline.start.run (tokens.map Token.kind) = some c.outline := by
  rw [← outline_start]
  exact reads_start.outline_steps read

/-- What has been read can go on. -/
theorem viable_of_steps {limit : Limit} {tokens : List Token} {c : Configuration}
    (read : Configuration.start.steps limit tokens = .ok c) : Viable (tokens.map Token.kind) := by
  rw [viable_iff, outline_of_steps read]
  rfl

/-- A configuration admits exactly what continues the kinds of the tokens that were read. -/
theorem Configuration.admits_iff_continues {limit : Limit} {tokens : List Token}
    {c : Configuration} (read : Configuration.start.steps limit tokens = .ok c)
    (ahead : Lookahead) : c.admits ahead = true ↔ Continues (tokens.map Token.kind) ahead := by
  have reached := outline_of_steps read
  have nested := (reads_start.steps read).nested
  cases ahead with
  | token kind =>
      rw [admits_eq_isSome_step nested, Continues, viable_iff, Outline.run_append, reached]
      simp
  | ending =>
      rw [c.admits_ending_iff, Continues, complete_iff, reached]
      simp

/-- The names in an error are those of the lookaheads that a configuration admits. -/
theorem Configuration.name_mem_expected_iff (c : Configuration) (ahead : Lookahead) :
    ahead.name ∈ distinctTexts (c.expected.map Lookahead.name) ↔ c.admits ahead = true := by
  rw [mem_distinctTexts, List.mem_map]
  constructor
  · rintro ⟨ahead', expected, same⟩
    rw [← Lookahead.name_inj.1 same]
    exact (List.mem_filter.1 expected).2
  · intro admitted
    exact ⟨ahead, List.mem_filter.2 ⟨ahead.mem_all, admitted⟩, rfl⟩

/-- What is expected where a reading stops is what continues the kinds of the tokens. -/
theorem mem_expected_iff {limit : Limit} {tokens : List Token} {c : Configuration}
    (read : Configuration.start.steps limit tokens = .ok c) (ahead : Lookahead) :
    ahead.name ∈ distinctTexts (c.expected.map Lookahead.name) ↔
      Continues (tokens.map Token.kind) ahead := by
  rw [c.name_mem_expected_iff, Configuration.admits_iff_continues read]

/-- Nothing else is. -/
theorem exists_name_eq_of_mem_expected {c : Configuration} {name : String}
    (expected : name ∈ distinctTexts (c.expected.map Lookahead.name)) :
    ∃ ahead : Lookahead, ahead.name = name := by
  rw [mem_distinctTexts, List.mem_map] at expected
  obtain ⟨ahead, -, name_eq⟩ := expected
  exact ⟨ahead, name_eq⟩

/-- A failure is reported as unexpected only when it is. -/
theorem Failure.exists_of_report_unexpected {failure : Failure} {text : String} {limit : Limit}
    (unexpected : (failure.report text limit).cause = .unexpected) :
    ∃ found expected, failure = .unexpected found expected := by
  cases failure with
  | unexpected found expected => exact ⟨found, expected, rfl⟩
  | unknownAgent | tooDeep => cases unexpected

/-- An error that stands at a place of a text, a token or the end, where the text stops being the
    beginning of a formula. -/
structure ParseError.FirstMistake (e : ParseError) (text : String) (place : Nat) : Prop where
  /-- The error gives the place, and at the end nothing but the end is wrong. -/
  stands : match (tokenize text).tokens[place]? with
    | some token => e.offset = token.offset ∧ e.token = some token.value
    | none => (tokenize text).fault = none ∧ place = (tokenize text).tokens.length ∧
        e.offset = text.length ∧ e.token = none
  /-- The kinds of the tokens in front of the place are those that some formula begins with. -/
  viable : Viable (((tokenize text).tokens.take place).map Token.kind)
  /-- No formula goes on with what stands there. -/
  refused : ¬ Continues (((tokenize text).tokens.take place).map Token.kind)
    (aheadAt (tokenize text).tokens place)
  /-- What a formula can go on with is expected, and nothing else is. -/
  expected : ∀ ahead : Lookahead, ahead.name ∈ e.expected ↔
    Continues (((tokenize text).tokens.take place).map Token.kind) ahead
  /-- Everything that is expected is the name of a kind or of the end. -/
  named : ∀ name ∈ e.expected, ∃ ahead : Lookahead, ahead.name = name

/-- A token that is refused is the first mistake. -/
theorem firstMistake_of_refused {text : String} {limit : Limit} {before after : List Token}
    {token : Token} {c : Configuration}
    (tokens_eq : (tokenize text).tokens = before ++ token :: after)
    (read : Configuration.start.steps limit before = .ok c)
    (refused : c.admits (.token token.kind) = false) :
    ((Failure.unexpected (some token) c.expected).report text limit).FirstMistake text
      before.length := by
  have there : (tokenize text).tokens[before.length]? = some token := by
    rw [tokens_eq]
    simp
  have front : (tokenize text).tokens.take before.length = before := by
    rw [tokens_eq]
    simp
  constructor
  · rw [there]
    exact ⟨rfl, rfl⟩
  · rw [front]
    exact viable_of_steps read
  · rw [front, aheadAt_eq_token there, ← Configuration.admits_iff_continues read, refused]
    exact Bool.false_ne_true
  · rw [front]
    exact mem_expected_iff read
  · exact fun _ expected => exists_name_eq_of_mem_expected expected

/-- So is the end of a text when it is refused. -/
theorem firstMistake_of_refused_ending {text : String} {limit : Limit} {c : Configuration}
    (noFault : (tokenize text).fault = none)
    (read : Configuration.start.steps limit (tokenize text).tokens = .ok c)
    (refused : c.admits .ending = false) :
    ((Failure.unexpected none c.expected).report text limit).FirstMistake text
      (tokenize text).tokens.length := by
  have there : (tokenize text).tokens[(tokenize text).tokens.length]? = none :=
    List.getElem?_length _
  have atEnd : aheadAt (tokenize text).tokens (tokenize text).tokens.length = .ending := by
    simp [aheadAt]
  have front : (tokenize text).tokens.take (tokenize text).tokens.length =
      (tokenize text).tokens := List.take_length
  constructor
  · rw [there]
    exact ⟨noFault, rfl, rfl, rfl⟩
  · rw [front]
    exact viable_of_steps read
  · rw [front, atEnd, ← Configuration.admits_iff_continues read, refused]
    exact Bool.false_ne_true
  · rw [front]
    exact mem_expected_iff read
  · exact fun _ expected => exists_name_eq_of_mem_expected expected

namespace Parser

/-- A syntax error stands at the first token that cannot continue, or at the end of a text that is
    not complete, and what it expects is exactly what can. -/
theorem syntax_error_at_first_mistake (p : Parser) (text : String) (e : ParseError)
    (failed : p.parse text = .error (.parse e)) (unexpected : e.cause = .unexpected) :
    ∃ place, e.FirstMistake text place := by
  obtain ⟨failure, rfl, stops⟩ := parse_eq_parseError failed
  obtain ⟨found, expected, rfl⟩ := Failure.exists_of_report_unexpected unexpected
  rcases stops with ⟨before, token, after, c, tokens_eq, read, stops⟩ | ⟨c, noFault, read, stops⟩
  · cases Configuration.step_error stops with
    | unexpected refused => exact ⟨_, firstMistake_of_refused tokens_eq read refused⟩
  · rcases Configuration.finish_error stops with ⟨same, refused⟩ | ⟨phrase, operator, -, same, -⟩
    · cases same
      exact ⟨_, firstMistake_of_refused_ending noFault read refused⟩
    · cases same

/-- A second biconditional is refused where the first one has no bracket or quantifier around it. -/
theorem syntax_error_second_biconditional :
    ∃ e place, standard.parse "p <-> q <-> r" = .error (.parse e) ∧ e.cause = .unexpected ∧
      e.offset = 8 ∧ e.FirstMistake "p <-> q <-> r" place := by
  have stopped : (standard.run "p <-> q <-> r").outcome =
      .error (.failure (.unexpected (some ⟨.biconditional, "<->", 8⟩)
        [.ending, .token .opening, .token .conjunction, .token .disjunction,
          .token .implication])) := by
    decide +kernel
  have failed : standard.parse "p <-> q <-> r" =
      .error (.parse (Failure.report "p <-> q <-> r" .standard
        (.unexpected (some ⟨.biconditional, "<->", 8⟩)
          [.ending, .token .opening, .token .conjunction, .token .disjunction,
            .token .implication]))) := by
    rw [parse, stopped]
    rfl
  obtain ⟨place, mistake⟩ := syntax_error_at_first_mistake standard _ _ failed rfl
  exact ⟨_, place, failed, rfl, rfl, mistake⟩

end Parser

end ModalLanguage
