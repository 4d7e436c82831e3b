/-
Module: ModalLanguage.Proofs.Recognition
Purpose: A parser accepts the texts of its grammar and no others. A reading is led by its outline:
  as long as the outline can take the tokens, the agents are known and there is room for all nodes,
  no step fails (`Reads.exists_steps`). As every derivation runs through the outline, no derivation
  is lost by the reading's choices, and the outline decides which lists of kinds are complete and
  which are viable.
Main exports: Reads.exists_steps, Reads.exists_finish, Tree.exists_run, grammatical_iff,
  complete_iff, viable_iff, Parser.exists_widest_tree, Parser.accepts_grammar
-/
import ModalLanguage.Proofs.Outline

namespace ModalLanguage

/-! ### Reading what the outline can take -/

theorem Reads.nested {c : Configuration} {tokens : List Token} (reads : Reads c tokens) :
    Nested c.frames := by
  cases reads with
  | operand opened | modality opened | subscript opened | agent opened | quantifier opened
  | bound opened | name opened | «arguments» opened | argument opened | separator opened
  | complete _ opened => exact opened.nested

/-- The agent that is looked up when its operand begins is the name behind an underscore. -/
theorem Reads.isSome_ofName? {frames : List Frame} {op name : Token} {modality : Modality}
    {tokens rest : List Token} (reads : Reads ⟨frames, .agent op modality name⟩ tokens)
    (named : AgentsNamed (tokens ++ rest)) : (Agent.ofName? name.value).isSome = true := by
  cases reads with
  | @agent _ before _ _ mark _ opened isOp isMark isName =>
      have plain : op.kind ≠ .underscore := by
        rw [isOp]
        cases modality <;> decide
      rw [List.append_assoc] at named
      have behind : AgentsNamed ([op, mark, name] ++ rest) := named.right_of_append
      rw [List.cons_append, agentsNamed_cons plain] at behind
      exact ((agentsNamed_underscore isMark).1 behind).1

/-- When the agent in front, if there is one, is known and there is room, a step only fails at a token
    that cannot stand next. -/
theorem Reads.refused_of_known {limit : Limit} {c : Configuration} {tokens : List Token}
    {token : Token} {failure : Failure} (reads : Reads c tokens)
    (known : ∀ op modality name, c.focus = .agent op modality name →
      (Agent.ofName? name.value).isSome = true)
    (room : tokens.length ≤ limit.nesting) (failed : c.step limit token = .error failure) :
    failure = .unexpected (some token) c.expected ∧ c.admits (.token token.kind) = false := by
  cases Configuration.step_error failed with
  | unexpected refused => exact ⟨rfl, refused⟩
  | @unknownAgent op name modality focus unknown =>
      have isAgent := known op modality name focus
      rw [unknown] at isAgent
      cases isAgent
  | @tooDeep operator phrase next complete tooDeep =>
      obtain ⟨closed, closes⟩ := reads.exists_closeFrames complete room next
      rw [closes] at tooDeep
      cases tooDeep

/-- A token that can stand next is read when the agent in front of it is known and there is room. -/
theorem Reads.exists_step {limit : Limit} {c : Configuration} {tokens rest : List Token}
    {token : Token} (reads : Reads c tokens) (admitted : c.admits (.token token.kind) = true)
    (named : AgentsNamed (tokens ++ rest)) (room : tokens.length ≤ limit.nesting) :
    ∃ next, c.step limit token = .ok next := by
  cases taken : c.step limit token with
  | ok next => exact ⟨next, rfl⟩
  | error failure =>
      obtain ⟨-, refused⟩ := reads.refused_of_known (fun op modality name focus => by
        obtain ⟨frames, focus'⟩ := c
        cases focus
        exact reads.isSome_ofName? named) room taken
      rw [admitted] at refused
      cases refused

/-- The reading follows its outline through tokens that the outline can take. -/
theorem Reads.exists_steps {limit : Limit} {c : Configuration} {before rest : List Token}
    {last : Outline} (reads : Reads c before)
    (runs : c.outline.run (rest.map Token.kind) = some last)
    (named : AgentsNamed (before ++ rest)) (room : (before ++ rest).length ≤ limit.nesting) :
    ∃ next, c.steps limit rest = .ok next ∧ next.outline = last ∧ Reads next (before ++ rest) := by
  induction rest generalizing c before with
  | nil =>
      cases runs
      exact ⟨c, rfl, rfl, by simpa using reads⟩
  | cons token rest ih =>
      rw [List.map_cons, Outline.run_cons, Option.bind_eq_some_iff] at runs
      obtain ⟨middle, taken, runs⟩ := runs
      have admitted : c.admits (.token token.kind) = true := by
        rw [Configuration.admits_eq_isSome_step reads.nested, taken]
        rfl
      have roomBefore : before.length ≤ limit.nesting := by
        rw [List.length_append] at room
        omega
      obtain ⟨next, stepped⟩ := reads.exists_step admitted named roomBefore
      have outline_eq := Configuration.step_outline reads.nested stepped
      rw [taken] at outline_eq
      cases outline_eq
      rw [← List.singleton_append, ← List.append_assoc] at named room
      obtain ⟨last', read, last_eq, reads'⟩ := ih (reads.step stepped) runs named room
      refine ⟨last', ?_, last_eq, by simpa using reads'⟩
      rw [Configuration.steps_cons, stepped]
      exact read

/-- The outline of a reading that succeeds. -/
theorem Reads.outline_steps {limit : Limit} {c next : Configuration} {before rest : List Token}
    (reads : Reads c before) (read : c.steps limit rest = .ok next) :
    c.outline.run (rest.map Token.kind) = some next.outline := by
  induction rest generalizing c before with
  | nil =>
      cases read
      rfl
  | cons token rest ih =>
      obtain ⟨middle, taken, readRest⟩ := Configuration.exists_step_of_steps read
      rw [List.map_cons, Outline.run_cons, Configuration.step_outline reads.nested taken]
      exact ih (reads.step taken) readRest

/-- When there is room, reading the end only fails where the end cannot stand. -/
theorem Reads.refused_ending {limit : Limit} {c : Configuration} {tokens : List Token}
    {failure : Failure} (reads : Reads c tokens) (room : tokens.length ≤ limit.nesting)
    (failed : c.finish limit = .error failure) :
    failure = .unexpected none c.expected ∧ c.admits .ending = false := by
  rcases Configuration.finish_error failed with refused | ⟨phrase, operator, complete, rfl, tooDeep⟩
  · exact refused
  · obtain ⟨closed, closes⟩ := reads.exists_closeFrames complete room .ending
    rw [closes] at tooDeep
    cases tooDeep

/-- Where the outline accepts, the end can be read when there is room. -/
theorem Reads.exists_finish {limit : Limit} {c : Configuration} {tokens : List Token}
    (reads : Reads c tokens) (accepts : c.outline.Accepts)
    (room : tokens.length ≤ limit.nesting) : ∃ f, c.finish limit = .ok f := by
  cases finished : c.finish limit with
  | ok f => exact ⟨f, rfl⟩
  | error failure =>
      obtain ⟨-, refused⟩ := reads.refused_ending room finished
      rw [c.admits_ending_iff.2 accepts] at refused
      cases refused

/-! ### The grammar as the outline sees it -/

/-- The kinds of every whole derivation are accepted. -/
theorem Tree.exists_run (t : Tree .formula) :
    ∃ last, Outline.start.run (t.tokens.map Token.kind) = some last ∧ last.Accepts := by
  have wants : Outline.start.Wants t := ⟨.inl rfl, fun _ => Nat.le_refl 1⟩
  obtain ⟨last, runs⟩ := t.exists_runs wants
  exact ⟨last, runs.run, runs.phrase, runs.outer⟩

/-- A list of tokens is grammatical when the outline accepts its kinds and its agents are known. -/
theorem grammatical_iff (tokens : List Token) :
    Grammatical tokens ↔
      (∃ last, Outline.start.run (tokens.map Token.kind) = some last ∧ last.Accepts) ∧
        AgentsNamed tokens := by
  constructor
  · rintro ⟨tree, rfl, known⟩
    exact ⟨tree.exists_run, tree.agentsKnown_iff.1 known⟩
  · rintro ⟨⟨last, runs, accepts⟩, named⟩
    let limit : Limit := ⟨tokens.length + 1, Nat.succ_pos _⟩
    have room : tokens.length ≤ limit.nesting := Nat.le_succ _
    obtain ⟨next, read, rfl, reads⟩ := reads_start.exists_steps runs named room
    obtain ⟨f, finished⟩ := reads.exists_finish accepts room
    obtain ⟨tree, tokens_eq, known, -, -⟩ := reads.finish finished
    exact ⟨tree, tokens_eq, known⟩

/-- A list of kinds is complete when the outline accepts it. -/
theorem complete_iff (kinds : List Kind) :
    Complete kinds ↔ ∃ last, Outline.start.run kinds = some last ∧ last.Accepts := by
  constructor
  · rintro ⟨tree, rfl⟩
    exact tree.exists_run
  · intro accepted
    -- Any names will do, as long as they can be the names of agents too.
    let tokens : List Token := kinds.map fun kind => ⟨kind, "a", 0⟩
    have kinds_eq : tokens.map Token.kind = kinds := by simp [tokens, Function.comp_def]
    have named : AgentsNamed tokens := by
      refine (List.pairwise_of_forall_mem_list ?_).isChain
      intro mark _ name isName _
      obtain ⟨kind, -, rfl⟩ := List.mem_map.1 isName
      change (Agent.ofName? "a").isSome = true
      decide
    rw [← kinds_eq] at accepted
    obtain ⟨tree, tokens_eq, -⟩ := (grammatical_iff tokens).2 ⟨accepted, named⟩
    exact ⟨tree, by rw [tokens_eq, kinds_eq]⟩

/-- From everywhere a few names, and a closing bracket behind arguments, lead to a phrase. -/
theorem Outline.exists_phrase (o : Outline) :
    ∃ rest last, o.run rest = some last ∧ last.IsPhrase := by
  obtain ⟨stage, free, outer⟩ := o
  cases stage with
  | operand | modality | agent | bound => exact ⟨[.letter], _, rfl, .inl rfl⟩
  | subscript | quantifier => exact ⟨[.letter, .letter], _, rfl, .inl rfl⟩
  | name => exact ⟨[], _, rfl, .inl rfl⟩
  | «arguments» | separator => exact ⟨[.letter, .closing], _, rfl, .inr rfl⟩
  | argument => exact ⟨[.closing], _, rfl, .inr rfl⟩
  | complete => exact ⟨[], _, rfl, .inr rfl⟩

/-- Behind a phrase the open brackets can be closed one after another. -/
theorem Outline.IsPhrase.exists_accepting {o : Outline} (phrase : o.IsPhrase) :
    ∃ rest last, o.run rest = some last ∧ last.Accepts := by
  obtain ⟨stage, free, outer⟩ := o
  induction outer generalizing stage free with
  | nil => exact ⟨[], _, rfl, phrase, rfl⟩
  | cons free' outer ih =>
      obtain ⟨rest, last, runs, accepts⟩ := ih .complete free' (.inr rfl)
      refine ⟨.closing :: rest, last, ?_, accepts⟩
      rw [run_cons, phrase.step (by decide)]
      exact runs

/-- A list of kinds is viable when the outline can read it: nothing that it reads is a dead end. -/
theorem viable_iff (kinds : List Kind) :
    Viable kinds ↔ (Outline.start.run kinds).isSome = true := by
  constructor
  · rintro ⟨rest, complete⟩
    obtain ⟨last, runs, -⟩ := (complete_iff _).1 complete
    rw [Outline.run_append, Option.bind_eq_some_iff] at runs
    obtain ⟨middle, runs, -⟩ := runs
    rw [runs]
    rfl
  · intro reached
    obtain ⟨o, reached⟩ := Option.isSome_iff_exists.1 reached
    obtain ⟨first, middle, toPhrase, phrase⟩ := o.exists_phrase
    obtain ⟨second, last, toEnd, accepts⟩ := phrase.exists_accepting
    refine ⟨first ++ second, (complete_iff _).2 ⟨last, ?_, accepts⟩⟩
    rw [Outline.run_append, reached, Option.bind_some, Outline.run_append, toPhrase,
      Option.bind_some, toEnd]

/-! ### Parsing -/

namespace Parser

/-- A formula that is returned is the meaning of a derivation of the whole text in which no
    quantifier with a dot could reach further. -/
theorem exists_widest_tree {p : Parser} {text : String} {f : Formula}
    (parsed : p.parse text = .ok f) :
    ∃ tree : Tree .formula, tree.tokens = (tokenize text).tokens ∧ tree.agentsKnown = true ∧
      tree.Widest .ending ∧ tree.formula = f := by
  obtain ⟨-, c, read, finished⟩ := (p.parse_eq_ok_iff text f).1 parsed
  exact (reads_start.steps read).finish finished

/-- A parser accepts exactly its grammar. When its limit is at least the number of tokens of a text,
    it returns a formula if and only if all of the text is tokens and these are grammatical; and the
    formula is the meaning of a derivation of the whole text. -/
theorem accepts_grammar (p : Parser) (text : String)
    (room : (tokenize text).tokens.length ≤ p.limit.nesting) :
    ((∃ f, p.parse text = .ok f) ↔
      (tokenize text).fault = none ∧ Grammatical (tokenize text).tokens) ∧
    ∀ f, p.parse text = .ok f →
      ∃ tree : Tree .formula, tree.tokens = (tokenize text).tokens ∧ tree.agentsKnown = true ∧
        tree.formula = f := by
  have derived (f : Formula) (parsed : p.parse text = .ok f) :
      ∃ tree : Tree .formula, tree.tokens = (tokenize text).tokens ∧ tree.agentsKnown = true ∧
        tree.formula = f := by
    obtain ⟨tree, tokens_eq, known, -, formula_eq⟩ := exists_widest_tree parsed
    exact ⟨tree, tokens_eq, known, formula_eq⟩
  refine ⟨⟨?_, ?_⟩, derived⟩
  · rintro ⟨f, parsed⟩
    obtain ⟨tree, tokens_eq, known, -⟩ := derived f parsed
    exact ⟨((p.parse_eq_ok_iff text f).1 parsed).1, tree, tokens_eq, known⟩
  · rintro ⟨noFault, grammatical⟩
    obtain ⟨⟨last, runs, accepts⟩, named⟩ := (grammatical_iff _).1 grammatical
    obtain ⟨c, read, rfl, reads⟩ := reads_start.exists_steps runs named room
    obtain ⟨f, finished⟩ := reads.exists_finish accepts room
    exact ⟨f, (p.parse_eq_ok_iff text f).2 ⟨noFault, c, read, finished⟩⟩

/-- A second biconditional without brackets is grammatical behind a quantifier with a dot, which
    takes the first one. -/
theorem grammatical_two_biconditionals :
    (tokenize "A x. p <-> q <-> r").tokens.length ≤ 8 ∧
      Grammatical (tokenize "A x. p <-> q <-> r").tokens := by
  have room : (tokenize "A x. p <-> q <-> r").tokens.length ≤ 8 := by decide +kernel
  have parsed : (⟨⟨8, by decide⟩⟩ : Parser).parse "A x. p <-> q <-> r" =
      .ok (.binary .biconditional
        (.quantified .universal "x" (.binary .biconditional (.atom "p") (.atom "q")))
        (.atom "r")) := by
    decide +kernel
  exact ⟨room, ((accepts_grammar ⟨⟨8, by decide⟩⟩ _ room).1.1 ⟨_, parsed⟩).2⟩

end Parser

end ModalLanguage
