/-
Module: ModalLanguage.Proofs.Lockstep
Purpose: Only the kinds of tokens and the names among them matter to parsing. Two readings run side
  by side, over tokens that are related pairwise: related tokens are of one kind, and have one value
  where the value is a name. Whatever the readings hold is then the same but for the tokens, and
  these are related; so each step takes both of them further or stops both at related tokens
  (`Configuration.Agrees.step`). With the tokens at equal places of two texts as the relation, both
  parses end alike: with one formula, or with one error at the same place.
Main exports: KeepsNames, Configuration.Agrees, Outcomes, closeFrames_agrees, beginOperand_agrees,
  Configuration.Agrees.step, Configuration.Agrees.steps, Configuration.Agrees.finish,
  Token.Alike, Parser.Corresponds, Parser.parse_respects_spelling
-/
import Mathlib.Data.List.Forall2
import ModalLanguage.Proofs.LongestMatch
import ModalLanguage.Proofs.Reading

namespace ModalLanguage

/-! ### Two readings side by side -/

/-- A relation between the tokens of two texts under which kinds agree, and values where they are
    names. -/
structure KeepsNames (R : Token → Token → Prop) : Prop where
  kind : ∀ {token token' : Token}, R token token' → token.kind = token'.kind
  name : ∀ {token token' : Token}, R token token' → token.kind = .letter ∨ token.kind = .agent →
    token.value = token'.value

section Agreement

variable (R : Token → Token → Prop)

/-- Frames that differ in the tokens that wrote them only. -/
inductive Frame.Agrees : Frame → Frame → Prop where
  | bracket : Agrees .bracket .bracket
  | waiting {token token' : Token} (related : R token token') (operator : Operator) :
      Agrees (.waiting token operator) (.waiting token' operator)

/-- What was read last, on both sides. -/
inductive Focus.Agrees : Focus → Focus → Prop where
  | operand : Agrees .operand .operand
  | modality {token token' : Token} (related : R token token') (op : Modality) :
      Agrees (.modality token op) (.modality token' op)
  | subscript {token token' : Token} (related : R token token') (op : Modality) :
      Agrees (.subscript token op) (.subscript token' op)
  | agent {token token' name name' : Token} (related : R token token') (op : Modality)
      (names : R name name') (same : name.value = name'.value) :
      Agrees (.agent token op name) (.agent token' op name')
  | quantifier {token token' : Token} (related : R token token') (op : Quantifier) :
      Agrees (.quantifier token op) (.quantifier token' op)
  | bound {token token' : Token} (related : R token token') (op : Quantifier) (name : String) :
      Agrees (.bound token op name) (.bound token' op name)
  | name (name : String) : Agrees (.name name) (.name name)
  | «arguments» (predicate : String) : Agrees (.arguments predicate) (.arguments predicate)
  | argument (predicate first : String) (rest : List String) :
      Agrees (.argument predicate first rest) (.argument predicate first rest)
  | separator (predicate first : String) (rest : List String) :
      Agrees (.separator predicate first rest) (.separator predicate first rest)
  | complete (phrase : Formula) : Agrees (.complete phrase) (.complete phrase)

/-- Configurations of two readings that have come equally far. -/
structure Configuration.Agrees (c c' : Configuration) : Prop where
  frames : List.Forall₂ (Frame.Agrees R) c.frames c'.frames
  focus : Focus.Agrees R c.focus c'.focus

/-- Phrases that differ in the tokens around them only. -/
structure Phrase.Agrees (phrase phrase' : Phrase) : Prop where
  frames : List.Forall₂ (Frame.Agrees R) phrase.frames phrase'.frames
  formula : phrase.formula = phrase'.formula
  isSealed : phrase.isSealed = phrase'.isSealed

/-- Failures of one kind at related tokens, or both at the end. -/
inductive Failure.Agrees : Failure → Failure → Prop where
  | unexpected {token token' : Token} (related : R token token') (expected : List Lookahead) :
      Agrees (.unexpected (some token) expected) (.unexpected (some token') expected)
  | ending (expected : List Lookahead) :
      Agrees (.unexpected none expected) (.unexpected none expected)
  | unknownAgent {name name' : Token} (related : R name name') (same : name.value = name'.value) :
      Agrees (.unknownAgent name) (.unknownAgent name')
  | tooDeep {operator operator' : Token} (related : R operator operator') :
      Agrees (.tooDeep operator) (.tooDeep operator')

/-- Two outcomes: both readings go on with results that agree, or both fail alike. -/
inductive Outcomes {α : Type} (agree : α → α → Prop) :
    Except Failure α → Except Failure α → Prop where
  | ok {a a' : α} (results : agree a a') : Outcomes agree (.ok a) (.ok a')
  | error {failure failure' : Failure} (failures : Failure.Agrees R failure failure') :
      Outcomes agree (.error failure) (.error failure')

end Agreement

variable {R : Token → Token → Prop}

theorem Outcomes.bind {α β : Type} {agree : α → α → Prop} {agree' : β → β → Prop}
    {x x' : Except Failure α} {f f' : α → Except Failure β} (first : Outcomes R agree x x')
    (second : ∀ {a a' : α}, agree a a' → Outcomes R agree' (f a) (f' a')) :
    Outcomes R agree' (x >>= f) (x' >>= f') := by
  cases first with
  | ok results => exact second results
  | error failures => exact .error failures

/-- Both readings take the same branch where both decide by the same condition. -/
theorem Outcomes.ite {α : Type} {agree : α → α → Prop} {x x' y y' : Except Failure α}
    (P : Prop) [Decidable P] (holds : Outcomes R agree x x') (fails : Outcomes R agree y y') :
    Outcomes R agree (if P then x else y) (if P then x' else y') := by
  split
  · exact holds
  · exact fails

/-! ### What can be read next -/

section Next

variable {frames frames' : List Frame} (agree : List.Forall₂ (Frame.Agrees R) frames frames')

include agree

theorem refusesNegation_agrees : refusesNegation frames = refusesNegation frames' := by
  cases agree with
  | nil => rfl
  | cons frame outer =>
      cases frame with
      | bracket | waiting => rfl

theorem canFollow_agrees (next : Follower) (isSealed : Bool) :
    canFollow next frames isSealed = canFollow next frames' isSealed := by
  induction agree generalizing isSealed with
  | nil => rfl
  | cons frame outer ih =>
      cases frame with
      | bracket => rfl
      | waiting related operator => rw [canFollow, canFollow, ih]

theorem canFollowPhrase_agrees (ahead : Lookahead) :
    canFollowPhrase ahead frames = canFollowPhrase ahead frames' := by
  unfold canFollowPhrase
  cases ahead.follower? with
  | none => rfl
  | some next => exact canFollow_agrees agree next false

/-- Operators are completed alike, and the first that is too deep is the same. -/
theorem closeFrames_agrees (limit : Limit) (next : Follower) (f : Formula) (isSealed : Bool) :
    Outcomes R (Phrase.Agrees R) (closeFrames limit next frames f isSealed)
      (closeFrames limit next frames' f isSealed) := by
  induction agree generalizing f isSealed with
  | nil => exact .ok ⟨.nil, rfl, rfl⟩
  | cons frame outer ih =>
      cases frame with
      | bracket => exact .ok ⟨.cons .bracket outer, rfl, rfl⟩
      | waiting related operator =>
          rw [closeFrames, closeFrames]
          refine .ite _ (.ite _ (ih _ _) ?_) ?_
          · exact .error (.tooDeep related)
          · exact .ok ⟨.cons (.waiting related operator) outer, rfl, rfl⟩

end Next

namespace Configuration.Agrees

variable {c c' : Configuration}

theorem phrase?_eq (agrees : c.Agrees R c') : c.phrase? = c'.phrase? := by
  obtain ⟨frames, focus⟩ := c
  obtain ⟨frames', focus'⟩ := c'
  obtain ⟨-, focus⟩ := agrees
  cases focus <;> rfl

theorem admits_eq (agrees : c.Agrees R c') (ahead : Lookahead) :
    c.admits ahead = c'.admits ahead := by
  obtain ⟨frames, focus⟩ := c
  obtain ⟨frames', focus'⟩ := c'
  obtain ⟨frames, focus⟩ := agrees
  have follows := canFollowPhrase_agrees frames ahead
  have refuses := refusesNegation_agrees frames
  cases focus <;> cases ahead <;> simp_all [admits]

/-- The same lookaheads are expected. -/
theorem expected_eq (agrees : c.Agrees R c') : c.expected = c'.expected :=
  List.filter_congr fun ahead _ => agrees.admits_eq ahead

/-- Both readings refuse related tokens alike. -/
theorem refuse {α : Type} {agree : α → α → Prop} {token token' : Token} (agrees : c.Agrees R c')
    (related : R token token') : Outcomes R agree (c.refuse token) (c'.refuse token') := by
  unfold Configuration.refuse
  rw [agrees.expected_eq]
  exact .error (.unexpected related _)

theorem orRefuse {token token' : Token} {next next' : Option Configuration}
    (agrees : c.Agrees R c') (related : R token token')
    (taken : Option.Rel (Configuration.Agrees R) next next') :
    Outcomes R (Configuration.Agrees R) (c.orRefuse token next) (c'.orRefuse token' next') := by
  cases taken with
  | some results => exact .ok results
  | none => exact agrees.refuse related

end Configuration.Agrees

/-! ### One step -/

/-- Related tokens follow phrases alike. -/
theorem takeFollower_agrees {token token' : Token} {phrase phrase' : Phrase}
    (related : R token token') (next : Follower) (agrees : phrase.Agrees R phrase') :
    Option.Rel (Configuration.Agrees R) (takeFollower token next phrase)
      (takeFollower token' next phrase') := by
  obtain ⟨frames, formula, isSealed⟩ := phrase
  obtain ⟨frames', formula', isSealed'⟩ := phrase'
  obtain ⟨agree, formula_eq, isSealed_eq⟩ := agrees
  cases formula_eq
  cases isSealed_eq
  cases next with
  | connective op =>
      cases isSealed with
      | true => exact .none
      | false => exact .some ⟨.cons (.waiting related _) agree, .operand⟩
  | closing =>
      cases agree with
      | nil => exact .none
      | cons frame outer =>
          cases frame with
          | bracket => exact .some ⟨outer, .complete _⟩
          | waiting => exact .none
  | ending => exact .none

section Step

variable (keeps : KeepsNames R) {token token' : Token} (related : R token token')

include keeps related

/-- Related tokens begin an operand alike. -/
theorem beginOperand_agrees {frames frames' : List Frame}
    (agree : List.Forall₂ (Frame.Agrees R) frames frames') :
    Option.Rel (Configuration.Agrees R) (beginOperand frames token)
      (beginOperand frames' token') := by
  have name_eq := keeps.name related
  unfold beginOperand
  rw [← keeps.kind related, refusesNegation_agrees agree]
  cases kind : token.kind with
  | letter =>
      rw [name_eq (.inl kind)]
      exact .some ⟨agree, .name _⟩
  | verum | falsum => exact .some ⟨agree, .complete _⟩
  | box | diamond => exact .some ⟨agree, .modality related _⟩
  | universal | existential => exact .some ⟨agree, .quantifier related _⟩
  | opening => exact .some ⟨.cons .bracket agree, .operand⟩
  | negation =>
      simp only
      split
      · exact .none
      · exact .some ⟨.cons (.waiting related .negation) agree, .operand⟩
  | _ => exact .none

theorem Configuration.Agrees.stepPhrase {c c' : Configuration} (agrees : c.Agrees R c')
    (limit : Limit) (phrase : Formula) :
    Outcomes R (Configuration.Agrees R) (c.stepPhrase limit phrase token)
      (c'.stepPhrase limit phrase token') := by
  unfold Configuration.stepPhrase
  rw [keeps.kind related]
  cases (Lookahead.token token'.kind).follower? with
  | none => exact agrees.refuse related
  | some next =>
      simp only
      have closes := closeFrames_agrees agrees.frames limit next phrase false
      generalize closeFrames limit next c.frames phrase false = closed at closes
      generalize closeFrames limit next c'.frames phrase false = closed' at closes
      cases closes with
      | ok results => exact agrees.orRefuse related (takeFollower_agrees related next results)
      | error failures => exact .error failures

/-- One step: both readings go on and agree, or both stop at related tokens for the same reason. -/
theorem Configuration.Agrees.step {c c' : Configuration} (agrees : c.Agrees R c')
    (limit : Limit) :
    Outcomes R (Configuration.Agrees R) (c.step limit token) (c'.step limit token') := by
  have kind_eq := keeps.kind related
  have refused {α : Type} {agree : α → α → Prop} :
      Outcomes R agree (c.refuse token) (c'.refuse token') := agrees.refuse related
  have begins {frames frames' : List Frame}
      (agree : List.Forall₂ (Frame.Agrees R) frames frames') :
      Outcomes R (Configuration.Agrees R) (c.orRefuse token (beginOperand frames token))
        (c'.orRefuse token' (beginOperand frames' token')) :=
    agrees.orRefuse related (beginOperand_agrees keeps related agree)
  have phrases (phrase : Formula) := agrees.stepPhrase keeps related limit phrase
  obtain ⟨frames, focus⟩ := c
  obtain ⟨frames', focus'⟩ := c'
  obtain ⟨agree, focuses⟩ := agrees
  unfold Configuration.step
  rw [← kind_eq]
  cases focuses with
  | operand => exact begins agree
  | modality related' op =>
      refine .ite _ ?_ ?_
      · exact .ok ⟨agree, .subscript related' op⟩
      · exact begins (.cons (.waiting related' _) agree)
  | subscript related' op =>
      simp only
      split
      · rename_i isName
        exact .ok ⟨agree, .agent related' op related (keeps.name related isName)⟩
      · exact refused
  | @agent op op' name name' related' modality names same =>
      simp only
      rw [← same]
      refine .ite _ ?_ refused
      cases Agent.ofName? name.value with
      | some agent => exact begins (.cons (.waiting related' _) agree)
      | none => exact .error (.unknownAgent names same)
  | quantifier related' op =>
      simp only
      split
      · rename_i isName
        rw [← keeps.name related (.inl isName)]
        exact .ok ⟨agree, .bound related' op _⟩
      · exact refused
  | bound related' op name =>
      refine .ite _ ?_ ?_
      · exact .ok ⟨.cons (.waiting related' _) agree, .operand⟩
      · exact begins (.cons (.waiting related' _) agree)
  | name name =>
      refine .ite _ ?_ (phrases _)
      exact .ok ⟨agree, .arguments name⟩
  | «arguments» predicate =>
      simp only
      split
      · rename_i isName
        rw [← keeps.name related (.inl isName)]
        exact .ok ⟨agree, .argument predicate _ _⟩
      · exact refused
  | argument predicate first rest =>
      refine .ite _ ?_ (.ite _ ?_ refused)
      · exact .ok ⟨agree, .separator predicate first rest⟩
      · exact .ok ⟨agree, .complete _⟩
  | separator predicate first rest =>
      simp only
      split
      · rename_i isName
        rw [← keeps.name related (.inl isName)]
        exact .ok ⟨agree, .argument predicate first _⟩
      · exact refused
  | complete phrase => exact phrases phrase

end Step

/-! ### A whole reading -/

/-- Readings of related tokens agree to their end. -/
theorem Configuration.Agrees.steps (keeps : KeepsNames R) {c c' : Configuration}
    {tokens tokens' : List Token} (agrees : c.Agrees R c') (limit : Limit)
    (related : List.Forall₂ R tokens tokens') :
    Outcomes R (Configuration.Agrees R) (c.steps limit tokens) (c'.steps limit tokens') := by
  induction related generalizing c c' with
  | nil => exact .ok agrees
  | cons related rest ih =>
      rw [steps_cons, steps_cons]
      exact .bind (agrees.step keeps related limit) ih

/-- Both ends are read alike. -/
theorem Configuration.Agrees.finish {c c' : Configuration} (agrees : c.Agrees R c')
    (limit : Limit) : Outcomes R Eq (c.finish limit) (c'.finish limit) := by
  have nothing {α : Type} {agree : α → α → Prop} : Outcomes R agree
      (.error (.unexpected none c.expected)) (.error (.unexpected none c'.expected)) := by
    rw [agrees.expected_eq]
    exact .error (.ending _)
  have settled : Outcomes R (Phrase.Agrees R) (c.settle limit .ending)
      (c'.settle limit .ending) := by
    unfold settle
    rw [agrees.phrase?_eq]
    cases c'.phrase? with
    | none => exact nothing
    | some phrase => exact closeFrames_agrees agrees.frames limit .ending phrase false
  rw [finish_eq_settle, finish_eq_settle]
  refine settled.bind ?_
  rintro ⟨frames, formula, isSealed⟩ ⟨frames', formula', isSealed'⟩ ⟨agree, formula_eq, -⟩
  cases agree with
  | nil => exact .ok formula_eq
  | cons => exact nothing

/-! ### Parsing two texts -/

/-- Tokens of one kind, with one value where that is a name. -/
def Token.Alike (token token' : Token) : Prop :=
  token.kind = token'.kind ∧ (token.kind = .letter → token.value = token'.value)

instance (token token' : Token) : Decidable (token.Alike token') :=
  inferInstanceAs (Decidable (_ ∧ _))

/-- Tokens at equal places of two texts. -/
def SamePlace (text text' : String) (token token' : Token) : Prop :=
  ∃ place : Nat, (tokenize text).tokens[place]? = some token ∧
    (tokenize text').tokens[place]? = some token'

section Texts

variable {text text' : String}
  (alike : List.Forall₂ Token.Alike (tokenize text).tokens (tokenize text').tokens)

include alike

/-- No token is the letter of an agent, so tokens that are alike have one value where it is a
    name. -/
theorem keepsNames_samePlace : KeepsNames (SamePlace text text') := by
  have pairs {token token' : Token} (related : SamePlace text text' token token') :
      token.Alike token' := by
    obtain ⟨place, there, there'⟩ := related
    obtain ⟨inside, rfl⟩ := List.getElem?_eq_some_iff.1 there
    obtain ⟨inside', rfl⟩ := List.getElem?_eq_some_iff.1 there'
    exact (List.forall₂_iff_get.1 alike).2 place inside inside'
  constructor
  · intro token token' related
    exact (pairs related).1
  · intro token token' related isName
    have same := (pairs related).2
    obtain ⟨place, there, -⟩ := related
    have noAgent := kind_ne_agent_of_mem_tokenize (List.mem_of_getElem? there)
    exact same (isName.resolve_right noAgent)

theorem forall₂_samePlace :
    List.Forall₂ (SamePlace text text') (tokenize text).tokens (tokenize text').tokens := by
  rw [List.forall₂_iff_get]
  refine ⟨alike.length_eq, ?_⟩
  intro place inside inside'
  exact ⟨place, List.getElem?_eq_getElem inside, List.getElem?_eq_getElem inside'⟩

end Texts

namespace ParseError

/-- Whether an error stands at a token. -/
def StandsAt (e : ParseError) (token : Token) : Prop :=
  e.offset = token.offset ∧ e.token = some token.value

/-- Whether an error stands at the end of a text. -/
def StandsAtEnd (e : ParseError) (text : String) : Prop :=
  e.offset = text.length ∧ e.token = none

end ParseError

namespace Parser

/-- Outcomes of parsing two texts that are the same but for the places in the texts: one formula; an
    invalid character in both; or errors with one cause and one expectation, at tokens of equal
    number or both at the end. -/
inductive Corresponds (text text' : String) :
    Except Error Formula → Except Error Formula → Prop where
  | formula (f : Formula) : Corresponds text text' (.ok f) (.ok f)
  | invalid {fault fault' : InvalidCharacter} (found : (tokenize text).fault = some fault)
      (found' : (tokenize text').fault = some fault') :
      Corresponds text text' (.error (.invalid fault)) (.error (.invalid fault'))
  | atToken {e e' : ParseError} {place : Nat} {token token' : Token}
      (there : (tokenize text).tokens[place]? = some token)
      (there' : (tokenize text').tokens[place]? = some token') (stands : e.StandsAt token)
      (stands' : e'.StandsAt token') (cause : e.cause = e'.cause)
      (expected : e.expected = e'.expected) :
      Corresponds text text' (.error (.parse e)) (.error (.parse e'))
  | atEnd {e e' : ParseError} (stands : e.StandsAtEnd text) (stands' : e'.StandsAtEnd text')
      (cause : e.cause = e'.cause) (expected : e.expected = e'.expected) :
      Corresponds text text' (.error (.parse e)) (.error (.parse e'))

/-- Failures at tokens of equal number are reported as errors that correspond. -/
theorem corresponds_report {text text' : String} {failure failure' : Failure} (limit : Limit)
    (agrees : Failure.Agrees (SamePlace text text') failure failure') :
    Corresponds text text' (.error (.parse (failure.report text limit)))
      (.error (.parse (failure'.report text' limit))) := by
  cases agrees with
  | unexpected related expected =>
      obtain ⟨place, there, there'⟩ := related
      exact .atToken there there' ⟨rfl, rfl⟩ ⟨rfl, rfl⟩ rfl rfl
  | ending expected => exact .atEnd ⟨rfl, rfl⟩ ⟨rfl, rfl⟩ rfl rfl
  | unknownAgent related same =>
      obtain ⟨place, there, there'⟩ := related
      refine .atToken there there' ⟨rfl, rfl⟩ ⟨rfl, rfl⟩ ?_ rfl
      exact congrArg ParseError.Cause.unknownAgent same
  | tooDeep related =>
      obtain ⟨place, there, there'⟩ := related
      exact .atToken there there' ⟨rfl, rfl⟩ ⟨rfl, rfl⟩ rfl rfl

/-- Only the kinds of tokens and the names among them matter to parsing. Two texts whose tokens are
    of the same kinds in the same order, with the same names, and which both end well or both with
    an invalid character, are parsed as one formula or fail with one error at the same token. -/
theorem parse_respects_spelling (p : Parser) (text text' : String)
    (alike : List.Forall₂ Token.Alike (tokenize text).tokens (tokenize text').tokens)
    (ends : (tokenize text).fault.isSome = (tokenize text').fault.isSome) :
    Corresponds text text' (p.parse text) (p.parse text') := by
  have started : Configuration.start.Agrees (SamePlace text text') .start := ⟨.nil, .operand⟩
  have read := started.steps (keepsNames_samePlace alike) p.limit (forall₂_samePlace alike)
  rw [parse_eq, parse_eq]
  generalize Configuration.start.steps p.limit (tokenize text).tokens = outcome at read
  generalize Configuration.start.steps p.limit (tokenize text').tokens = outcome' at read
  cases read with
  | error failures => exact corresponds_report p.limit failures
  | @ok c c' agrees =>
      cases found : (tokenize text).fault with
      | some fault =>
          rw [found, Option.isSome_some] at ends
          obtain ⟨fault', found'⟩ := Option.isSome_iff_exists.1 ends.symm
          rw [found']
          exact .invalid found found'
      | none =>
          have found' : (tokenize text').fault = none := by
            rw [← Option.not_isSome_iff_eq_none, ← ends, found]
            exact Bool.false_ne_true
          rw [found']
          simp only
          have finished := agrees.finish p.limit
          generalize c.finish p.limit = last at finished
          generalize c'.finish p.limit = last' at finished
          cases finished with
          | ok same =>
              cases same
              exact .formula _
          | error failures => exact corresponds_report p.limit failures

/-- Other spellings and blanks move the error, and nothing else. -/
theorem parse_respects_spelling_unknown_agent :
    Corresponds "[]_e p" "□ _ e\tp" (standard.parse "[]_e p") (standard.parse "□ _ e\tp") := by
  refine parse_respects_spelling standard _ _ ?_ ?_
  · decide +kernel
  · decide +kernel

end Parser

end ModalLanguage
