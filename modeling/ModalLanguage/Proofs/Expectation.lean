/-
Module: ModalLanguage.Proofs.Expectation
Purpose: What a syntax error expects is what the engine would take. The reporter asks for every
  lookahead by a simulation on the states of the stack, as it was before the engine made any
  reduction for the token that it refused. When all agents are known and the limit leaves room, no
  rule can fail on that stack, so the engine takes or refuses each token as the reading admits it
  (`Holds.answer?_token`), and the simulation comes to the same answer.
Main exports: KnownAgents, Automaton.Foretells, ParseError.Foretold,
  Parser.expected_is_what_engine_takes
-/
import ModalLanguage.Proofs.ErrorAnchors
import ModalLanguage.Proofs.StackReading
import ModalLanguage.Proofs.SyntaxError

namespace ModalLanguage

open Automaton

/-- Every name right behind an underscore is that of an agent. -/
def KnownAgents (tokens : List Token) : Prop :=
  tokens.IsChain fun mark name =>
    mark.kind = .underscore → name.kind = .letter → (Agent.ofName? name.value).isSome = true

/-- The agent in front of a focus is known when all agents are, as tokens that stand for agents
    outright are never read. -/
theorem Reads.isSome_ofName?_of_knownAgents {c : Configuration} {before after : List Token}
    (reads : Reads c before) (agents : KnownAgents (before ++ after))
    (letters : ∀ token ∈ before, token.kind ≠ .agent) :
    ∀ op modality name, c.focus = .agent op modality name →
      (Agent.ofName? name.value).isSome = true := by
  intro op modality name focus
  obtain ⟨frames, focus'⟩ := c
  cases focus
  obtain ⟨front, mark, rfl, isMark, isName, -⟩ := reads.agent_marked
  have isLetter : name.kind = .letter := isName.resolve_right (letters name (by simp))
  rw [List.append_assoc] at agents
  have behind : KnownAgents ([mark, name] ++ after) := List.IsChain.right_of_append agents
  exact (List.isChain_cons_cons.1 behind).1 isMark isLetter

/-! ### What is read, and what the engine takes -/

section Answers

variable {limit : Limit} {c : Configuration} {tokens : List Token}

/-- What is read next is what a configuration admits. -/
theorem Reads.exists_step_iff (reads : Reads c tokens)
    (known : ∀ op modality name, c.focus = .agent op modality name →
      (Agent.ofName? name.value).isSome = true)
    (room : tokens.length ≤ limit.nesting) (token : Token) :
    (∃ next, c.step limit token = .ok next) ↔ c.admits (.token token.kind) = true := by
  constructor
  · rintro ⟨next, taken⟩
    rw [Configuration.admits_eq_isSome_step reads.nested,
      Configuration.step_outline reads.nested taken]
    rfl
  · intro admitted
    cases taken : c.step limit token with
    | ok next => exact ⟨next, rfl⟩
    | error failure =>
        obtain ⟨-, refused⟩ := reads.refused_of_known known room taken
        rw [admitted] at refused
        cases refused

theorem Reads.exists_finish_iff (reads : Reads c tokens) (room : tokens.length ≤ limit.nesting) :
    (∃ f, c.finish limit = .ok f) ↔ c.admits .ending = true := by
  constructor
  · rintro ⟨f, finished⟩
    obtain ⟨phrase, isSealed, complete, closes⟩ := Configuration.finish_ok finished
    rw [c.admits_ending, complete, canFollow_ending_eq closes]
    rfl
  · intro admitted
    exact reads.exists_finish (c.admits_ending_iff.1 admitted) room

namespace Automaton

variable {stack : List Cell}

/-- The engine shifts the tokens that a configuration admits and refuses all others. -/
theorem Holds.settle_token (holds : Holds c stack) (reads : Reads c tokens)
    (known : ∀ op modality name, c.focus = .agent op modality name →
      (Agent.ofName? name.value).isSome = true)
    (room : tokens.length ≤ limit.nesting) (token : Token) :
    (c.admits (.token token.kind) = true ∧
        ∃ stack', settle limit (some token) stack = .shifted stack') ∨
      (c.admits (.token token.kind) = false ∧ settle limit (some token) stack = .refused) := by
  have agrees := holds.step limit token
  generalize settle limit (some token) stack = verdict at agrees ⊢
  cases taken : c.step limit token with
  | ok next =>
      rw [taken] at agrees
      cases agrees with
      | passed shifts =>
          obtain ⟨stack', shifted, -⟩ := shifts
          exact .inl ⟨(reads.exists_step_iff known room token).1 ⟨next, taken⟩, stack', shifted⟩
  | error failure =>
      obtain ⟨rfl, refused⟩ := reads.refused_of_known known room taken
      rw [taken] at agrees
      cases agrees
      exact .inr ⟨refused, rfl⟩

/-- It accepts the end where the configuration admits it, and refuses it elsewhere. -/
theorem Holds.settle_ending (holds : Holds c stack) (reads : Reads c tokens)
    (room : tokens.length ≤ limit.nesting) :
    (c.admits .ending = true ∧ ∃ f, settle limit none stack = .accepted f) ∨
      (c.admits .ending = false ∧ settle limit none stack = .refused) := by
  have agrees := holds.finish limit
  generalize settle limit none stack = verdict at agrees ⊢
  cases finished : c.finish limit with
  | ok f =>
      rw [finished] at agrees
      cases agrees with
      | passed accepted =>
          exact .inl ⟨(reads.exists_finish_iff room).1 ⟨f, finished⟩, f, accepted⟩
  | error failure =>
      obtain ⟨rfl, refused⟩ := reads.refused_ending room finished
      rw [finished] at agrees
      cases agrees
      exact .inr ⟨refused, rfl⟩

/-- A simulation answers what the configuration admits. It sees nothing of a token but its kind. -/
theorem Holds.simulate_of_known (holds : Holds c stack) (reads : Reads c tokens)
    (known : ∀ op modality name, c.focus = .agent op modality name →
      (Agent.ofName? name.value).isSome = true)
    (ahead : Lookahead) : simulate ahead (states stack) = .answer (c.admits ahead) := by
  -- under a limit that leaves room no rule of the engine fails
  let limit : Limit := ⟨tokens.length + 1, Nat.succ_pos _⟩
  have room : tokens.length ≤ limit.nesting := Nat.le_succ _
  cases ahead with
  | token kind =>
      rcases holds.settle_token reads known room ⟨kind, "", 0⟩ with
        ⟨admitted, stack', settled⟩ | ⟨refused, settled⟩
      · rw [admitted]
        exact simulate_states (by rw [settled]; rfl)
      · rw [refused]
        exact simulate_states (by rw [settled]; rfl)
  | ending =>
      rcases holds.settle_ending reads room with ⟨admitted, f, settled⟩ | ⟨refused, settled⟩
      · rw [admitted]
        exact simulate_states (by rw [settled]; rfl)
      · rw [refused]
        exact simulate_states (by rw [settled]; rfl)

/-- With another name in the place of an unknown agent's, a reading has the same states and admits
    the same. -/
theorem Holds.exists_known (holds : Holds c stack) (reads : Reads c tokens) :
    ∃ c' stack' tokens', Holds c' stack' ∧ Reads c' tokens' ∧
      (∀ op modality name, c'.focus = .agent op modality name →
        (Agent.ofName? name.value).isSome = true) ∧
      states stack' = states stack ∧ c'.admits = c.admits := by
  by_cases known : ∀ op modality name, c.focus = .agent op modality name →
      (Agent.ofName? name.value).isSome = true
  · exact ⟨c, stack, tokens, holds, reads, known, rfl, rfl⟩
  · push Not at known
    obtain ⟨op, modality, name, focus, -⟩ := known
    obtain ⟨frames, focus'⟩ := c
    cases focus
    cases holds with
    | agent _ mark _ _ isLetter laid =>
        cases reads with
        | agent opened isOp isMark isName =>
            let renamed : Token := { name with value := Agent.a.name }
            refine ⟨_, _, _, .agent op mark renamed modality isLetter laid,
              .agent opened isOp isMark isName, ?_, rfl, ?_⟩
            · rintro _ _ _ ⟨⟩
              exact congrArg Option.isSome (Agent.ofName?_name .a)
            · funext ahead
              cases ahead <;> rfl

/-- A simulation answers what the configuration admits, whatever agents were named. -/
theorem Holds.simulate_eq (holds : Holds c stack) (reads : Reads c tokens) (ahead : Lookahead) :
    simulate ahead (states stack) = .answer (c.admits ahead) := by
  obtain ⟨c', stack', tokens', holds', reads', known, states_eq, admits_eq⟩ :=
    holds.exists_known reads
  rw [← states_eq, ← admits_eq]
  exact holds'.simulate_of_known reads' known ahead

/-- What a configuration does not admit is refused. -/
theorem Holds.settle_refused (holds : Holds c stack) (reads : Reads c tokens)
    (known : ∀ op modality name, c.focus = .agent op modality name →
      (Agent.ofName? name.value).isSome = true)
    (room : tokens.length ≤ limit.nesting) {found : Option Token}
    (refused : c.admits (aheadOf found) = false) : settle limit found stack = .refused := by
  cases found with
  | none =>
      rcases holds.settle_ending reads room with ⟨admitted, -⟩ | ⟨-, settled⟩
      · exact absurd (refused.symm.trans admitted) Bool.false_ne_true
      · exact settled
  | some token =>
      rcases holds.settle_token reads known room token with ⟨admitted, -⟩ | ⟨-, settled⟩
      · exact absurd (refused.symm.trans admitted) Bool.false_ne_true
      · exact settled

end Automaton

end Answers

namespace Automaton

/-- The names of lookaheads tell what the engine takes on a stack and what a simulation answers on
    its states. A simulation that answers has met no missing entry of the table, and it has kept the
    state at the bottom. -/
structure Foretells (expected : List String) (limit : Limit) (stack : List Cell) : Prop where
  shifted : ∀ token : Token,
    (∃ stack', settle limit (some token) stack = .shifted stack') ↔ token.kind.name ∈ expected
  accepted : (∃ f, settle limit none stack = .accepted f) ↔ Lookahead.ending.name ∈ expected
  simulated : ∀ ahead : Lookahead,
    simulate ahead (states stack) = .answer (decide (ahead.name ∈ expected))

/-- What a configuration admits foretells the engine on its stack. -/
theorem Holds.foretells {c : Configuration} {limit : Limit} {stack : List Cell}
    {tokens : List Token} (holds : Holds c stack) (reads : Reads c tokens)
    (known : ∀ op modality name, c.focus = .agent op modality name →
      (Agent.ofName? name.value).isSome = true)
    (room : tokens.length ≤ limit.nesting) :
    Foretells (distinctTexts (c.expected.map Lookahead.name)) limit stack where
  shifted token := by
    change _ ↔ (Lookahead.token token.kind).name ∈ _
    rw [c.name_mem_expected_iff]
    rcases holds.settle_token reads known room token with ⟨admitted, taken⟩ | ⟨refused, settled⟩
    · exact iff_of_true taken admitted
    · simp [refused, settled]
  accepted := by
    rw [c.name_mem_expected_iff]
    rcases holds.settle_ending reads room with ⟨admitted, taken⟩ | ⟨refused, settled⟩
    · exact iff_of_true taken admitted
    · simp [refused, settled]
  simulated ahead := by
    simp only [c.name_mem_expected_iff, Bool.decide_eq_true]
    exact holds.simulate_eq reads ahead

end Automaton

/-- A syntax error at a place of a text, a token or the end: behind the tokens in front of it the
    engine refuses what stands there, and the error expects exactly what the engine would take. So
    does the reading of configurations. -/
structure ParseError.Foretold (e : ParseError) (text : String) (limit : Limit) (place : Nat) :
    Prop where
  cause : e.cause = .unexpected
  stands : match (tokenize text).tokens[place]? with
    | some token => e.StandsAt token
    | none => (tokenize text).fault = none ∧ place = (tokenize text).tokens.length ∧
        e.StandsAtEnd text
  engine : ∃ stack, readTokens? limit [] ((tokenize text).tokens.take place) = some stack ∧
    settle limit (tokenize text).tokens[place]? stack = .refused ∧
    Foretells e.expected limit stack
  reading : ∃ c, Configuration.start.steps limit ((tokenize text).tokens.take place) = .ok c ∧
    (∀ token : Token, (∃ next, c.step limit token = .ok next) ↔ token.kind.name ∈ e.expected) ∧
    ((∃ f, c.finish limit = .ok f) ↔ Lookahead.ending.name ∈ e.expected)

section Places

variable {text : String} {limit : Limit} {c : Configuration} {before after : List Token}
  (tokens_eq : (tokenize text).tokens = before ++ after)
  (read : Configuration.start.steps limit before = .ok c)
  (agents : KnownAgents (tokenize text).tokens)
  (room : (tokenize text).tokens.length ≤ limit.nesting)

include tokens_eq

include read agents in
theorem isSome_ofName?_of_steps : ∀ op modality name, c.focus = .agent op modality name →
    (Agent.ofName? name.value).isSome = true := by
  have letters : ∀ token ∈ before, token.kind ≠ .agent := fun token member =>
    kind_ne_agent_of_mem_tokenize (tokens_eq ▸ List.mem_append_left after member)
  exact (reads_start.steps read).isSome_ofName?_of_knownAgents (tokens_eq ▸ agents) letters

include room in
theorem length_before_le : before.length ≤ limit.nesting := by
  rw [tokens_eq, List.length_append] at room
  exact (Nat.le_add_right _ _).trans room

include read agents room in
/-- A configuration that was reached foretells what is taken at a place where it refuses what stands
    there. -/
theorem foretold_of_refused {e : ParseError} (cause : e.cause = .unexpected)
    (refused : c.admits (aheadOf after.head?) = false)
    (expected : e.expected = distinctTexts (c.expected.map Lookahead.name))
    (stands : match after.head? with
      | some token => e.StandsAt token
      | none => (tokenize text).fault = none ∧ e.StandsAtEnd text) :
    e.Foretold text limit before.length := by
  have reads : Reads c before := reads_start.steps read
  have known := isSome_ofName?_of_steps tokens_eq read agents
  have roomBefore := length_before_le tokens_eq room
  have front : (tokenize text).tokens.take before.length = before := by
    rw [tokens_eq, List.take_left]
  have there : (tokenize text).tokens[before.length]? = after.head? := by
    rw [tokens_eq, List.getElem?_append_right (Nat.le_refl _), Nat.sub_self,
      List.head?_eq_getElem?]
  obtain ⟨stack, readStack, holds⟩ := holds_start.exists_readTokens? read
  constructor
  · exact cause
  · rw [there]
    cases after with
    | nil => exact ⟨stands.1, by rw [tokens_eq, List.append_nil], stands.2⟩
    | cons token rest => exact stands
  · rw [front, there, expected]
    exact ⟨stack, readStack, holds.settle_refused reads known roomBefore refused,
      holds.foretells reads known roomBefore⟩
  · rw [front, expected]
    refine ⟨c, read, fun token => ?_, ?_⟩
    · change _ ↔ (Lookahead.token token.kind).name ∈ _
      rw [c.name_mem_expected_iff, reads.exists_step_iff known roomBefore]
    · rw [c.name_mem_expected_iff, reads.exists_finish_iff roomBefore]

end Places

namespace Parser

/-- A parse error in a text whose agents are known, under a limit that is no smaller than the number
    of tokens, expects exactly what the engine would take behind the tokens in front of the error: the
    kinds of which it shifts every token, and the end if it accepts there. On the states of the stack
    each simulation ends with the same answer, and with no state missing. -/
theorem expected_is_what_engine_takes (p : Parser) (text : String) (e : ParseError)
    (agents : KnownAgents (tokenize text).tokens)
    (room : (tokenize text).tokens.length ≤ p.limit.nesting)
    (failed : p.parse text = .error (.parse e)) : ∃ place, e.Foretold text p.limit place := by
  obtain ⟨failure, rfl, stops⟩ := parse_eq_parseError failed
  rcases stops with ⟨before, token, after, c, tokens_eq, read, stops⟩ | ⟨c, noFault, read, stops⟩
  · have known := isSome_ofName?_of_steps tokens_eq read agents
    obtain ⟨rfl, refused⟩ :=
      (reads_start.steps read).refused_of_known known (length_before_le tokens_eq room) stops
    exact ⟨_, foretold_of_refused tokens_eq read agents room rfl refused rfl ⟨rfl, rfl⟩⟩
  · have tokens_eq := (List.append_nil (tokenize text).tokens).symm
    obtain ⟨rfl, refused⟩ := (reads_start.steps read).refused_ending room stops
    exact ⟨_, foretold_of_refused tokens_eq read agents room rfl refused rfl
      ⟨noFault, rfl, rfl⟩⟩

/-- A closing bracket that nothing opened: the engine reduces the phrase in front of it to a whole
    formula before it refuses the bracket, so that the bracket is not expected. -/
theorem unopened_bracket_is_not_expected :
    ∃ e place, standard.parse "[]_a p )" = .error (.parse e) ∧
      Lookahead.ending.name ∈ e.expected ∧ Kind.closing.name ∉ e.expected ∧
      e.Foretold "[]_a p )" .standard place := by
  have stopped : (standard.run "[]_a p )").outcome =
      .error (.failure (.unexpected (some ⟨.closing, ")", 7⟩)
        [.ending, .token .opening, .token .conjunction, .token .disjunction,
          .token .implication, .token .biconditional])) := by
    decide +kernel
  have failed : standard.parse "[]_a p )" =
      .error (.parse (Failure.report "[]_a p )" .standard
        (.unexpected (some ⟨.closing, ")", 7⟩)
          [.ending, .token .opening, .token .conjunction, .token .disjunction,
            .token .implication, .token .biconditional]))) := by
    rw [parse, stopped]
    rfl
  have agents : KnownAgents (tokenize "[]_a p )").tokens := by
    rw [KnownAgents]
    decide +kernel
  obtain ⟨place, foretold⟩ :=
    expected_is_what_engine_takes standard _ _ agents (by decide +kernel) failed
  refine ⟨_, place, failed, ?_, ?_, foretold⟩
  · exact mem_distinctTexts.2 (by decide)
  · exact fun expected => absurd (mem_distinctTexts.1 expected) (by decide)

end Parser

end ModalLanguage
