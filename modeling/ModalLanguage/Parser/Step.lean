/-
Module: ModalLanguage.Parser.Step
Purpose: Reading one token. What the token completes is built first, innermost operator first, and
  each formula that an operator makes is held against the limit when it is made. Only then the token
  itself takes its place. A token that can follow no phrase is refused before anything is built.
Main exports: Failure, closeFrames, beginOperand, Configuration.step, Configuration.finish
-/
import ModalLanguage.Parser.Configuration
import ModalLanguage.Parser.Limit

namespace ModalLanguage

/-- Why a reading stops: a token, or the end of the text, at which nothing can go on; a name where
    an agent is wanted; or an operator whose formula exceeds the limit. -/
inductive Failure where
  | unexpected (found : Option Token) (expected : List Lookahead)
  | unknownAgent (name : Token)
  | tooDeep (operator : Token)
deriving DecidableEq, Repr

/-- A complete phrase with the frames that are still open around it. -/
structure Phrase where
  frames : List Frame
  formula : Formula
  isSealed : Bool
deriving DecidableEq, Repr

/-- Complete the operators that take the phrase when `next` follows it, innermost first. -/
def closeFrames (limit : Limit) (next : Follower) :
    List Frame → Formula → (isSealed : Bool) → Except Failure Phrase
  | .waiting token operator :: frames, formula, isSealed =>
    if operator.closedBy next isSealed then
      if limit.allows (operator.apply formula) then
        closeFrames limit next frames (operator.apply formula) operator.seals
      else .error (.tooDeep token)
    else .ok ⟨.waiting token operator :: frames, formula, isSealed⟩
  | frames, formula, isSealed => .ok ⟨frames, formula, isSealed⟩

/-- Begin an operand with a token, if one can begin so. -/
def beginOperand (frames : List Frame) (token : Token) : Option Configuration :=
  match token.kind with
  | .letter => some ⟨frames, .name token.value⟩
  | .verum => some ⟨frames, .complete (.constant true)⟩
  | .falsum => some ⟨frames, .complete (.constant false)⟩
  | .box => some ⟨frames, .modality token .box⟩
  | .diamond => some ⟨frames, .modality token .diamond⟩
  | .universal => some ⟨frames, .quantifier token .universal⟩
  | .existential => some ⟨frames, .quantifier token .existential⟩
  | .opening => some ⟨.bracket :: frames, .operand⟩
  | .negation =>
    if refusesNegation frames then none else some ⟨.waiting token .negation :: frames, .operand⟩
  | _ => none

/-- Take the token that follows a phrase: a connective waits for its right operand, and a closing
    bracket needs its opening one as the innermost frame. -/
def takeFollower (token : Token) (next : Follower) (phrase : Phrase) : Option Configuration :=
  match next, phrase.frames with
  | .connective op, frames =>
    if phrase.isSealed then none
    else some ⟨.waiting token (.binary op phrase.formula) :: frames, .operand⟩
  | .closing, .bracket :: frames => some ⟨frames, .complete phrase.formula⟩
  | _, _ => none

namespace Configuration

/-- Nothing can go on with the token. What could have is told from the configuration before it. -/
def refuse {α : Type} (c : Configuration) (token : Token) : Except Failure α :=
  .error (.unexpected (some token) c.expected)

/-- Accept the configuration behind a token, or refuse the token. -/
def orRefuse (c : Configuration) (token : Token) (next : Option Configuration) :
    Except Failure Configuration :=
  match next with
  | some next => .ok next
  | none => c.refuse token

/-- Read a token behind a complete phrase. -/
def stepPhrase (limit : Limit) (c : Configuration) (phrase : Formula) (token : Token) :
    Except Failure Configuration :=
  match (Lookahead.token token.kind).follower? with
  | none => c.refuse token
  | some next =>
    match closeFrames limit next c.frames phrase false with
    | .error failure => .error failure
    | .ok closed => c.orRefuse token (takeFollower token next closed)

/-- Read one token. The name of an agent is looked at only when its operand begins. -/
def step (limit : Limit) (c : Configuration) (token : Token) : Except Failure Configuration :=
  match c.focus with
  | .operand => c.orRefuse token (beginOperand c.frames token)
  | .modality op modality =>
    if token.kind = .underscore then .ok ⟨c.frames, .subscript op modality⟩
    else c.orRefuse token (beginOperand (.waiting op (.modal modality none) :: c.frames) token)
  | .subscript op modality =>
    if token.kind = .letter ∨ token.kind = .agent then .ok ⟨c.frames, .agent op modality token⟩
    else c.refuse token
  | .agent op modality agentName =>
    if token.kind.beginsTight then
      match Agent.ofName? agentName.value with
      | some agent =>
        let frames := .waiting op (.modal modality (some agent)) :: c.frames
        c.orRefuse token (beginOperand frames token)
      | none => .error (.unknownAgent agentName)
    else c.refuse token
  | .quantifier op quantifier =>
    if token.kind = .letter then .ok ⟨c.frames, .bound op quantifier token.value⟩
    else c.refuse token
  | .bound op quantifier name =>
    if token.kind = .dot then .ok ⟨.waiting op (.wide quantifier name) :: c.frames, .operand⟩
    else c.orRefuse token (beginOperand (.waiting op (.narrow quantifier name) :: c.frames) token)
  | .name name =>
    if token.kind = .opening then .ok ⟨c.frames, .arguments name⟩
    else c.stepPhrase limit (.atom name) token
  | .arguments predicate =>
    if token.kind = .letter then .ok ⟨c.frames, .argument predicate token.value []⟩
    else c.refuse token
  | .argument predicate first rest =>
    if token.kind = .comma then .ok ⟨c.frames, .separator predicate first rest⟩
    else if token.kind = .closing then
      .ok ⟨c.frames, .complete (.predicate predicate first rest.reverse)⟩
    else c.refuse token
  | .separator predicate first rest =>
    if token.kind = .letter then .ok ⟨c.frames, .argument predicate first (token.value :: rest)⟩
    else c.refuse token
  | .complete phrase => c.stepPhrase limit phrase token

/-- Accept a phrase at the end of the text: nothing may be open around it. -/
def finishPhrase (limit : Limit) (c : Configuration) (phrase : Formula) : Except Failure Formula :=
  match closeFrames limit .ending c.frames phrase false with
  | .error failure => .error failure
  | .ok ⟨[], formula, _⟩ => .ok formula
  | .ok _ => .error (.unexpected none c.expected)

/-- Read the end of the text. -/
def finish (limit : Limit) (c : Configuration) : Except Failure Formula :=
  match c.focus with
  | .name name => c.finishPhrase limit (.atom name)
  | .complete phrase => c.finishPhrase limit phrase
  | _ => .error (.unexpected none c.expected)

end Configuration

end ModalLanguage
