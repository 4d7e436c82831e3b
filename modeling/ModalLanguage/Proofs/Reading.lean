/-
Module: ModalLanguage.Proofs.Reading
Purpose: What one step of a reading, and a whole reading, can end in. A step that fails names the
  token it was given, the agent in front of it, or an operator that it was about to complete, and
  says nothing else; a reading that fails does so at one step, behind tokens that were all read. An
  operator can only be too deep when there are more nodes to build than the limit allows.
Main exports: Configuration.phrase?, Configuration.settle, Configuration.steps,
  Configuration.step_error, Configuration.finish_eq_settle, Configuration.finish_ok,
  Configuration.finish_error, Configuration.steps_error, Configuration.steps_cases,
  readFormula_outcome, Parser.parse_eq,
  Parser.parse_eq_ok_iff, Parser.parse_eq_parseError, Parser.fault_of_parse_eq_invalid,
  closeFrames_of_fits, exists_closeFrames_of_weight
-/
import ModalLanguage.Parser.Basic
import ModalLanguage.Proofs.Strata

namespace ModalLanguage

section Bind

variable {ε α β : Type} (f : α → Except ε β)

@[simp] theorem ok_bind (a : α) : (Except.ok a >>= f) = f a := rfl

@[simp] theorem error_bind (e : ε) : ((Except.error e : Except ε α) >>= f) = .error e := rfl

theorem bind_eq_ok {f : α → Except ε β} {x : Except ε α} {b : β} (bound : (x >>= f) = .ok b) :
    ∃ a, x = .ok a ∧ f a = .ok b := by
  cases x with
  | error e => cases bound
  | ok a => exact ⟨a, rfl, bound⟩

end Bind

/-! ### Completing frames -/

/-- Frames are only given up for a formula that is too deep. -/
theorem closeFrames_error {limit : Limit} {next : Follower} {frames : List Frame} {f : Formula}
    {isSealed : Bool} {failure : Failure}
    (failed : closeFrames limit next frames f isSealed = .error failure) :
    ∃ operator, failure = .tooDeep operator := by
  fun_induction closeFrames limit next frames f isSealed with
  | case1 token operator frames f isSealed closed allowed ih => exact ih failed
  | case2 token operator frames f isSealed closed tooDeep =>
      cases failed
      exact ⟨token, rfl⟩
  | case3 | case4 => cases failed

/-- Frames among which none is innermost and waits: nothing is open, or a bracket is. -/
theorem eq_nil_or_bracket {frames : List Frame}
    (notWaiting : ∀ token operator rest, frames = .waiting token operator :: rest → False) :
    frames = [] ∨ ∃ outer, frames = .bracket :: outer := by
  cases frames with
  | nil => exact .inl rfl
  | cons frame outer =>
      cases frame with
      | bracket => exact .inr ⟨outer, rfl⟩
      | waiting token operator => exact (notWaiting token operator outer rfl).elim

/-- A connective closes nothing when its phrase fits inside the frames. -/
theorem closeFrames_of_fits {limit : Limit} {op : Connective} {frames : List Frame} (f : Formula)
    (fits : (hole frames).level ≤ op.stratum.level) :
    closeFrames limit (.connective op) frames f false = .ok ⟨frames, f, false⟩ := by
  cases frames with
  | nil => rfl
  | cons frame frames =>
      cases frame with
      | bracket => rfl
      | waiting token operator =>
          have stays : ¬ operator.closedBy (.connective op) false = true := by
            rw [operator.closedBy_connective]
            exact Nat.not_lt.2 fits
          rw [closeFrames, if_neg stays]

/-- The number of nodes that an operator adds to its last operand. -/
def Operator.weight : Operator → Nat
  | binary _ left => left.size + 1
  | _ => 1

theorem Operator.size_apply (operator : Operator) (f : Formula) :
    (operator.apply f).size = operator.weight + f.size := by
  cases operator <;> simp [apply, weight, Formula.size] <;> omega

/-- The number of nodes that the open frames hold. -/
def weight : List Frame → Nat
  | [] => 0
  | .bracket :: frames => weight frames
  | .waiting _ operator :: frames => operator.weight + weight frames

theorem Formula.nesting_le_size (f : Formula) : f.nesting ≤ f.size := by
  induction f with
  | atom | constant | predicate | foreign => simp [nesting, size]
  | negation operand ih | modal op agent operand ih | quantified op bound operand ih =>
      simp only [nesting, size]
      omega
  | binary op left right ihLeft ihRight =>
      simp only [nesting, size]
      split <;> omega

/-- No formula is too deep when the limit is not smaller than the number of nodes there are. -/
theorem exists_closeFrames_of_weight {limit : Limit} {next : Follower} {frames : List Frame}
    {f : Formula} {isSealed : Bool} (room : weight frames + f.size ≤ limit.nesting) :
    ∃ phrase, closeFrames limit next frames f isSealed = .ok phrase := by
  fun_induction closeFrames limit next frames f isSealed with
  | case1 token operator frames f isSealed closed allowed ih =>
      apply ih
      rw [operator.size_apply]
      simp only [weight] at room
      omega
  | case2 token operator frames f isSealed closed tooDeep =>
      have small := (operator.apply f).nesting_le_size
      rw [operator.size_apply] at small
      simp only [weight] at room
      simp only [Limit.allows, decide_eq_true_eq] at tooDeep
      omega
  | case3 | case4 => exact ⟨_, rfl⟩

/-- Whether a follower can be read is decided by the phrase that stands when all is completed that
    it completes. -/
theorem canFollow_eq_isSome_takeFollower {limit : Limit} {next : Follower} {frames : List Frame}
    {f : Formula} {isSealed : Bool} {phrase : Phrase}
    (closed : closeFrames limit next frames f isSealed = .ok phrase) (going : next ≠ .ending)
    (token : Token) :
    canFollow next frames isSealed = (takeFollower token next phrase).isSome := by
  fun_induction closeFrames limit next frames f isSealed with
  | case1 token operator frames f isSealed closes allowed ih =>
      rw [canFollow, if_pos closes]
      exact ih closed
  | case2 => cases closed
  | case3 token operator frames f isSealed stays =>
      cases closed
      rw [canFollow, if_neg stays]
      cases next with
      | connective op => cases isSealed <;> simp [takeFollower]
      | closing => exact absurd (operator.closedBy_closing isSealed) stays
      | ending => exact absurd rfl going
  | case4 frames f isSealed notWaiting =>
      cases closed
      rcases eq_nil_or_bracket notWaiting with rfl | ⟨outer, rfl⟩
      · cases next <;> cases isSealed <;> simp_all [canFollow, takeFollower]
      · cases next <;> cases isSealed <;> simp_all [canFollow, takeFollower]

theorem canFollow_ending_eq {limit : Limit} {frames : List Frame} {f : Formula} {isSealed : Bool}
    {phrase : Phrase} (closed : closeFrames limit .ending frames f isSealed = .ok phrase) :
    canFollow .ending frames isSealed = phrase.frames.isEmpty := by
  fun_induction closeFrames limit .ending frames f isSealed with
  | case1 token operator frames f isSealed closes allowed ih =>
      rw [canFollow, if_pos closes]
      exact ih closed
  | case2 => cases closed
  | case3 token operator frames f isSealed stays =>
      exact absurd (operator.closedBy_ending isSealed) stays
  | case4 frames f isSealed notWaiting =>
      cases closed
      rcases eq_nil_or_bracket notWaiting with rfl | ⟨outer, rfl⟩
      · rfl
      · rfl

/-! ### One step -/

theorem isSome_beginOperand (frames : List Frame) (token : Token) :
    (beginOperand frames token).isSome =
      (token.kind.beginsTight || token.kind == .negation && !refusesNegation frames) := by
  unfold beginOperand
  cases token.kind <;> cases refusesNegation frames <;> rfl

theorem beginOperand_name {name : Token} (frames : List Frame) (isName : name.kind = .letter) :
    beginOperand frames name = some ⟨frames, .name name.value⟩ := by
  simp [beginOperand, isName]

theorem beginOperand_modality {op : Token} {modality : Modality} (frames : List Frame)
    (isOp : op.kind = modality.kind) :
    beginOperand frames op = some ⟨frames, .modality op modality⟩ := by
  cases modality <;> simp [beginOperand, isOp, Modality.kind]

theorem beginOperand_quantifier {op : Token} {quantifier : Quantifier} (frames : List Frame)
    (isOp : op.kind = quantifier.kind) :
    beginOperand frames op = some ⟨frames, .quantifier op quantifier⟩ := by
  cases quantifier <;> simp [beginOperand, isOp, Quantifier.kind]

namespace Configuration

/-- The phrase that was read last, if one is complete. -/
def phrase? (c : Configuration) : Option Formula :=
  match c.focus with
  | .name name => some (.atom name)
  | .complete phrase => some phrase
  | _ => none

/-- Complete what a follower completes, as a step does before it takes its token. -/
def settle (limit : Limit) (next : Follower) (c : Configuration) : Except Failure Phrase :=
  match c.phrase? with
  | some phrase => closeFrames limit next c.frames phrase false
  | none => .error (.unexpected none c.expected)

theorem orRefuse_error {c : Configuration} {token : Token} {next : Option Configuration}
    {failure : Failure} (failed : c.orRefuse token next = .error failure) :
    next = none ∧ failure = .unexpected (some token) c.expected := by
  cases next with
  | none =>
      cases failed
      exact ⟨rfl, rfl⟩
  | some next => cases failed

theorem orRefuse_ok {c next : Configuration} {token : Token} {next? : Option Configuration}
    (taken : c.orRefuse token next? = .ok next) : next? = some next := by
  cases next? with
  | none => cases taken
  | some next' =>
      cases taken
      rfl

/-- Why a step fails: the token cannot stand there, whatever the limit and the names; or the name in
    front of it is not that of an agent; or it completes an operator that is too deep. -/
inductive Fails (limit : Limit) (c : Configuration) (token : Token) : Failure → Prop where
  | unexpected (refused : c.admits (.token token.kind) = false) :
      Fails limit c token (.unexpected (some token) c.expected)
  | unknownAgent {op name : Token} {modality : Modality} (focus : c.focus = .agent op modality name)
      (unknown : Agent.ofName? name.value = none) : Fails limit c token (.unknownAgent name)
  | tooDeep {operator : Token} {phrase : Formula} {next : Follower}
      (complete : c.phrase? = some phrase)
      (failed : closeFrames limit next c.frames phrase false = .error (.tooDeep operator))
      (follows : (Lookahead.token token.kind).follower? = some next) :
      Fails limit c token (.tooDeep operator)

theorem stepPhrase_error {limit : Limit} {c : Configuration} {phrase : Formula} {token : Token}
    {failure : Failure} (failed : c.stepPhrase limit phrase token = .error failure) :
    (failure = .unexpected (some token) c.expected ∧
        canFollowPhrase (.token token.kind) c.frames = false) ∨
      ∃ next operator, failure = .tooDeep operator ∧
        closeFrames limit next c.frames phrase false = .error (.tooDeep operator) ∧
        (Lookahead.token token.kind).follower? = some next := by
  unfold stepPhrase at failed
  split at failed
  · rename_i noFollower
    cases failed
    exact .inl ⟨rfl, by rw [canFollowPhrase, noFollower]⟩
  · rename_i next follows
    split at failed
    · rename_i failure' notClosed
      cases failed
      obtain ⟨operator, rfl⟩ := closeFrames_error notClosed
      exact .inr ⟨next, operator, rfl, notClosed, follows⟩
    · rename_i closed closes
      obtain ⟨refused, rfl⟩ := orRefuse_error failed
      have going : next ≠ .ending := by
        rintro rfl
        cases (Lookahead.follower?_eq_some_iff.1 follows)
      have cannot := canFollow_eq_isSome_takeFollower closes going token
      rw [refused, Option.isSome_none] at cannot
      exact .inl ⟨rfl, by rw [canFollowPhrase, follows]; exact cannot⟩

/-- A token that begins no operand is refused where one is to begin, and so it is where an operand
    is only one of the things that can follow. -/
theorem beginsTight_eq_false {frames : List Frame} {token : Token}
    (nothing : beginOperand frames token = none) : token.kind.beginsTight = false := by
  have begun := isSome_beginOperand frames token
  rw [nothing, Option.isSome_none] at begun
  exact (Bool.or_eq_false_iff.1 begun.symm).1

theorem step_error {limit : Limit} {c : Configuration} {token : Token} {failure : Failure}
    (failed : c.step limit token = .error failure) : Fails limit c token failure := by
  obtain ⟨frames, focus⟩ := c
  cases focus with
  | operand =>
      obtain ⟨nothing, rfl⟩ := orRefuse_error failed
      refine .unexpected ?_
      change (token.kind.beginsTight || token.kind == .negation && !refusesNegation frames) = false
      rw [← isSome_beginOperand, nothing, Option.isSome_none]
  | modality op modality =>
      simp only [step] at failed
      split at failed
      · cases failed
      · rename_i noMark
        obtain ⟨nothing, rfl⟩ := orRefuse_error failed
        exact .unexpected (by simp [admits, beginsTight_eq_false nothing, noMark])
  | subscript | quantifier | «arguments» | separator =>
      simp only [step] at failed
      split at failed
      · cases failed
      · rename_i noName
        cases failed
        exact .unexpected (by simpa [admits] using noName)
  | agent op modality name =>
      simp only [step] at failed
      split at failed
      · split at failed
        · obtain ⟨nothing, rfl⟩ := orRefuse_error failed
          exact .unexpected (beginsTight_eq_false nothing)
        · rename_i unknown
          cases failed
          exact .unknownAgent rfl unknown
      · rename_i noOperand
        cases failed
        exact .unexpected (by simpa [admits] using noOperand)
  | bound op quantifier name =>
      simp only [step] at failed
      split at failed
      · cases failed
      · rename_i noDot
        obtain ⟨nothing, rfl⟩ := orRefuse_error failed
        exact .unexpected (by simp [admits, beginsTight_eq_false nothing, noDot])
  | name name =>
      simp only [step] at failed
      split at failed
      · cases failed
      · rename_i noOpening
        rcases stepPhrase_error failed with ⟨rfl, cannot⟩ | ⟨next, operator, rfl, tooDeep, follows⟩
        · exact .unexpected (by simpa [admits, noOpening] using cannot)
        · exact .tooDeep rfl tooDeep follows
  | argument predicate first rest =>
      simp only [step] at failed
      split at failed
      · cases failed
      · split at failed
        · cases failed
        · rename_i noComma noClosing
          cases failed
          exact .unexpected (by simp [admits, noComma, noClosing])
  | complete phrase =>
      rcases stepPhrase_error failed with ⟨rfl, cannot⟩ | ⟨next, operator, rfl, tooDeep, follows⟩
      · exact .unexpected cannot
      · exact .tooDeep rfl tooDeep follows

/-- Reading the end completes what the end completes; then nothing may be open. -/
theorem finish_eq_settle (limit : Limit) (c : Configuration) :
    c.finish limit =
      c.settle limit .ending >>= fun phrase =>
        if phrase.frames.isEmpty then .ok phrase.formula
        else .error (.unexpected none c.expected) := by
  have finishPhrase (phrase : Formula) :
      c.finishPhrase limit phrase =
        closeFrames limit .ending c.frames phrase false >>= fun phrase =>
          if phrase.frames.isEmpty then .ok phrase.formula
          else .error (.unexpected none c.expected) := by
    unfold Configuration.finishPhrase
    cases closeFrames limit .ending c.frames phrase false with
    | error failure => rfl
    | ok closed =>
        obtain ⟨frames, formula, isSealed⟩ := closed
        cases frames <;> rfl
  obtain ⟨frames, focus⟩ := c
  cases focus with
  | name | complete => exact finishPhrase _
  | _ => rfl

/-- What a reading that ends with a formula has read: a phrase, in frames that the end all
    completes. -/
theorem finish_ok {limit : Limit} {c : Configuration} {f : Formula}
    (finished : c.finish limit = .ok f) :
    ∃ phrase isSealed, c.phrase? = some phrase ∧
      closeFrames limit .ending c.frames phrase false = .ok ⟨[], f, isSealed⟩ := by
  rw [finish_eq_settle, settle] at finished
  cases complete : c.phrase? with
  | none =>
      rw [complete] at finished
      cases finished
  | some phrase =>
      rw [complete] at finished
      cases closes : closeFrames limit .ending c.frames phrase false with
      | error failure =>
          simp only [closes, error_bind] at finished
          cases finished
      | ok closed =>
          simp only [closes, ok_bind] at finished
          split at finished
          · rename_i nothingOpen
            obtain ⟨frames, formula, isSealed⟩ := closed
            obtain rfl := List.isEmpty_iff.1 nothingOpen
            cases finished
            exact ⟨phrase, isSealed, rfl, closes⟩
          · cases finished

theorem admits_ending (c : Configuration) :
    c.admits .ending = (c.phrase?.isSome && canFollow .ending c.frames false) := by
  obtain ⟨frames, focus⟩ := c
  cases focus <;> rfl

/-- Why the end cannot be read: no formula is complete, or the end completes an operator that is too
    deep. -/
theorem finish_error {limit : Limit} {c : Configuration} {failure : Failure}
    (failed : c.finish limit = .error failure) :
    (failure = .unexpected none c.expected ∧ c.admits .ending = false) ∨
      ∃ phrase operator, c.phrase? = some phrase ∧ failure = .tooDeep operator ∧
        closeFrames limit .ending c.frames phrase false = .error (.tooDeep operator) := by
  rw [finish_eq_settle, settle] at failed
  cases complete : c.phrase? with
  | none =>
      rw [complete] at failed
      cases failed
      exact .inl ⟨rfl, by rw [admits_ending, complete]; rfl⟩
  | some phrase =>
      rw [complete] at failed
      cases closes : closeFrames limit .ending c.frames phrase false with
      | error failure' =>
          simp only [closes, error_bind] at failed
          cases failed
          obtain ⟨operator, rfl⟩ := closeFrames_error closes
          exact .inr ⟨phrase, operator, rfl, rfl, closes⟩
      | ok closed =>
          simp only [closes, ok_bind] at failed
          split at failed
          · cases failed
          · rename_i stillOpen
            cases failed
            refine .inl ⟨rfl, ?_⟩
            rw [admits_ending, complete, canFollow_ending_eq closes]
            simpa using stillOpen

/-! ### A whole reading -/

/-- Read tokens one after another. -/
def steps (limit : Limit) (c : Configuration) (tokens : List Token) :
    Except Failure Configuration :=
  tokens.foldlM (fun c token => c.step limit token) c

@[simp] theorem steps_nil (limit : Limit) (c : Configuration) : c.steps limit [] = .ok c := rfl

@[simp] theorem steps_cons (limit : Limit) (c : Configuration) (token : Token)
    (rest : List Token) :
    c.steps limit (token :: rest) = c.step limit token >>= fun next => next.steps limit rest :=
  rfl

/-- A reading that succeeds begins with a step that does. -/
theorem exists_step_of_steps {limit : Limit} {c last : Configuration} {token : Token}
    {rest : List Token} (read : c.steps limit (token :: rest) = .ok last) :
    ∃ next, c.step limit token = .ok next ∧ next.steps limit rest = .ok last := by
  rw [steps_cons] at read
  exact bind_eq_ok read

theorem steps_append (limit : Limit) (c : Configuration) (first second : List Token) :
    c.steps limit (first ++ second) =
      c.steps limit first >>= fun next => next.steps limit second := by
  exact List.foldlM_append

/-- A reading that fails does so at one token, behind tokens that could be read. -/
theorem steps_error {limit : Limit} {c : Configuration} {tokens : List Token} {failure : Failure}
    (failed : c.steps limit tokens = .error failure) :
    ∃ before token after next, tokens = before ++ token :: after ∧
      c.steps limit before = .ok next ∧ next.step limit token = .error failure := by
  induction tokens generalizing c with
  | nil => cases failed
  | cons token rest ih =>
      rw [steps_cons] at failed
      cases taken : c.step limit token with
      | error failure' =>
          rw [taken] at failed
          cases failed
          exact ⟨[], token, rest, c, rfl, rfl, taken⟩
      | ok next =>
          rw [taken] at failed
          obtain ⟨before, token', after, next', rfl, read, stops⟩ := ih failed
          refine ⟨token :: before, token', after, next', rfl, ?_, stops⟩
          rw [steps_cons, taken]
          exact read

/-- All tokens can be read, or there is one that cannot. -/
theorem steps_cases (limit : Limit) (c : Configuration) (tokens : List Token) :
    (∃ next, c.steps limit tokens = .ok next) ∨
      ∃ before token after next failure, tokens = before ++ token :: after ∧
        c.steps limit before = .ok next ∧ next.step limit token = .error failure := by
  cases read : c.steps limit tokens with
  | ok next => exact .inl ⟨next, rfl⟩
  | error failure =>
      obtain ⟨before, token, after, next, tokens_eq, readBefore, stops⟩ := steps_error read
      exact .inr ⟨before, token, after, next, failure, tokens_eq, readBefore, stops⟩

end Configuration

/-- The outcome of a reading: the tokens are read in order, and then the end. -/
theorem readFormula_outcome (limit : Limit) (fault : Option InvalidCharacter) (c : Configuration)
    (tokens : List Token) (seen : Nat) :
    (readFormula limit fault c tokens seen).outcome =
      match c.steps limit tokens with
      | .error failure => .error (.failure failure)
      | .ok next => readEnd limit fault next := by
  induction tokens generalizing c seen with
  | nil => rfl
  | cons token rest ih =>
      rw [readFormula, Configuration.steps_cons]
      cases c.step limit token with
      | error failure => rfl
      | ok next => exact ih next (seen + 1)

/-! ### Parsing -/

namespace Parser

/-- Parsing reads all tokens, and then the end if the text is nothing but tokens. -/
theorem parse_eq (p : Parser) (text : String) :
    p.parse text =
      match Configuration.start.steps p.limit (tokenize text).tokens with
      | .error failure => .error (.parse (failure.report text p.limit))
      | .ok c =>
        match (tokenize text).fault with
        | some fault => .error (.invalid fault)
        | none =>
          (c.finish p.limit).mapError fun failure => .parse (failure.report text p.limit) := by
  rw [parse, run, readFormula_outcome]
  cases Configuration.start.steps p.limit (tokenize text).tokens with
  | error failure => rfl
  | ok c =>
      cases (tokenize text).fault with
      | some fault => rfl
      | none =>
          simp only [readEnd]
          cases c.finish p.limit <;> rfl

/-- A text is accepted when all of it is tokens, each of them can be read, and so can the end. -/
theorem parse_eq_ok_iff (p : Parser) (text : String) (f : Formula) :
    p.parse text = .ok f ↔
      (tokenize text).fault = none ∧
        ∃ c, Configuration.start.steps p.limit (tokenize text).tokens = .ok c ∧
          c.finish p.limit = .ok f := by
  rw [parse_eq]
  cases Configuration.start.steps p.limit (tokenize text).tokens with
  | error failure => simp
  | ok c =>
      cases (tokenize text).fault with
      | some fault => simp
      | none => cases finished : c.finish p.limit <;> simp [finished, Except.mapError]

/-- A parse error is the report of a failure: at a token, behind tokens that were all read, or at
    the end of a text that is all tokens. -/
theorem parse_eq_parseError {p : Parser} {text : String} {e : ParseError}
    (failed : p.parse text = .error (.parse e)) :
    ∃ failure, e = failure.report text p.limit ∧
      ((∃ before token after c, (tokenize text).tokens = before ++ token :: after ∧
          Configuration.start.steps p.limit before = .ok c ∧
          c.step p.limit token = .error failure) ∨
        ∃ c, (tokenize text).fault = none ∧
          Configuration.start.steps p.limit (tokenize text).tokens = .ok c ∧
          c.finish p.limit = .error failure) := by
  rw [parse_eq] at failed
  cases read : Configuration.start.steps p.limit (tokenize text).tokens with
  | error failure =>
      simp only [read, Except.error.injEq, Error.parse.injEq] at failed
      obtain ⟨before, token, after, c, tokens_eq, readBefore, stops⟩ :=
        Configuration.steps_error read
      exact ⟨failure, failed.symm, .inl ⟨before, token, after, c, tokens_eq, readBefore, stops⟩⟩
  | ok c =>
      simp only [read] at failed
      cases noFault : (tokenize text).fault with
      | some fault => simp [noFault] at failed
      | none =>
          cases finished : c.finish p.limit with
          | ok f => simp [noFault, finished, Except.mapError] at failed
          | error failure =>
              simp only [noFault, finished, Except.mapError, Except.error.injEq,
                Error.parse.injEq] at failed
              exact ⟨failure, failed.symm, .inr ⟨c, rfl, rfl, finished⟩⟩

/-- A character is only named invalid when no token begins with it. -/
theorem fault_of_parse_eq_invalid {p : Parser} {text : String} {fault : InvalidCharacter}
    (failed : p.parse text = .error (.invalid fault)) : (tokenize text).fault = some fault := by
  rw [parse_eq] at failed
  cases read : Configuration.start.steps p.limit (tokenize text).tokens with
  | error failure => simp [read] at failed
  | ok c =>
      simp only [read] at failed
      cases found : (tokenize text).fault with
      | some fault' => simpa [found] using failed
      | none => cases finished : c.finish p.limit <;>
          simp [found, finished, Except.mapError] at failed

end Parser

end ModalLanguage
