/-
Module: ModalLanguage.Parser.Configuration
Purpose: How far the reading of a formula has come between two tokens. The open brackets and the
  operators that wait for their last operand are kept innermost first; the focus says what was read
  last. From a configuration it can be told, without any names or formulas, which lookaheads can be
  read next.
Main exports: Operator, Frame, Focus, Configuration, Configuration.admits, Configuration.expected
-/
import ModalLanguage.Parser.Lookahead
import ModalLanguage.Token.Basic

namespace ModalLanguage

/-- An operator that waits for its last operand. A narrow quantifier takes an operand like that of a
    modal operator; a wide one, written with a dot, takes a whole formula. -/
inductive Operator where
  | negation
  | modal (op : Modality) (agent : Option Agent)
  | narrow (op : Quantifier) (bound : String)
  | wide (op : Quantifier) (bound : String)
  | binary (op : Connective) (left : Formula)
deriving DecidableEq, Repr

namespace Operator

/-- The formula that an operator makes of its last operand. -/
def apply : Operator → Formula → Formula
  | negation, operand => .negation operand
  | modal op agent, operand => .modal op agent operand
  | narrow op bound, operand => .quantified op bound operand
  | wide op bound, operand => .quantified op bound operand
  | binary op left, right => .binary op left right

/-- A biconditional takes no part in another one without brackets. Once its right operand is
    complete it is sealed: of what can follow, a biconditional cannot. -/
def seals : Operator → Bool
  | binary .biconditional _ => true
  | _ => false

/-- Whether an operator takes the complete phrase behind it when `next` follows. A wide quantifier
    gives way to every connective, as its operand goes on; only behind a sealed phrase it takes what
    it has when a biconditional follows. -/
def closedBy : Operator → Follower → (isSealed : Bool) → Bool
  | negation, _, _ => true
  | modal _ _, _, _ => true
  | narrow _ _, _, _ => true
  | wide _ _, .connective op, isSealed => op == .biconditional && isSealed
  | wide _ _, .closing, _ => true
  | wide _ _, .ending, _ => true
  | binary op _, next, _ => op.closedBy next

/-- The operators whose operand cannot begin with a negation. -/
def isTight : Operator → Bool
  | modal _ _ => true
  | narrow _ _ => true
  | _ => false

end Operator

/-- An open bracket, or an operator that waits for its last operand, with the token that wrote
    it. -/
inductive Frame where
  | bracket
  | waiting (token : Token) (operator : Operator)
deriving DecidableEq, Repr

/-- What was read last, and so what is to be read next. -/
inductive Focus where
  /-- An operand is to begin. -/
  | operand
  /-- A modal operator was read; an underscore or its operand follows. -/
  | modality (token : Token) (op : Modality)
  /-- The underscore behind a modal operator was read; the name of an agent follows. -/
  | subscript (token : Token) (op : Modality)
  /-- The name of an agent was read; the operand follows. -/
  | agent (token : Token) (op : Modality) (agentName : Token)
  /-- A quantifier was read; the name that it binds follows. -/
  | quantifier (token : Token) (op : Quantifier)
  /-- A quantifier and its name were read; a dot or the operand follows. -/
  | bound (token : Token) (op : Quantifier) (name : String)
  /-- A name was read: an atom, or a predicate if a bracket follows. -/
  | name (name : String)
  /-- The bracket behind a predicate was read; the first argument follows. -/
  | arguments (predicate : String)
  /-- An argument was read; the arguments behind the first are kept last first. -/
  | argument (predicate first : String) (rest : List String)
  /-- The comma behind an argument was read; another argument follows. -/
  | separator (predicate first : String) (rest : List String)
  /-- A phrase is complete. -/
  | complete (phrase : Formula)
deriving DecidableEq, Repr

/-- How far the reading has come. -/
structure Configuration where
  frames : List Frame
  focus : Focus
deriving DecidableEq, Repr

/-- Whether the innermost frame refuses a negation as the start of its operand. -/
def refusesNegation : List Frame → Bool
  | .waiting _ operator :: _ => operator.isTight
  | _ => false

/-- Whether `next` can be read behind a complete phrase inside the frames. -/
def canFollow (next : Follower) : List Frame → (isSealed : Bool) → Bool
  | .waiting _ operator :: frames, isSealed =>
    if operator.closedBy next isSealed then canFollow next frames operator.seals
    else next != .closing && next != .ending && !isSealed
  | .bracket :: _, isSealed =>
    match next with
    | .connective _ => !isSealed
    | .closing => true
    | .ending => false
  | [], isSealed =>
    match next with
    | .connective _ => !isSealed
    | .closing => false
    | .ending => true

/-- Whether a lookahead can be read behind a complete phrase inside the frames. -/
def canFollowPhrase (ahead : Lookahead) (frames : List Frame) : Bool :=
  match ahead.follower? with
  | some next => canFollow next frames false
  | none => false

namespace Configuration

/-- Before the first token an operand is to begin, and nothing is open. -/
def start : Configuration := ⟨[], .operand⟩

/-- Whether a lookahead can be read next, or the end of the text accepted. Names, agents and the
    nesting of formulas have no say in it. -/
def admits (c : Configuration) (ahead : Lookahead) : Bool :=
  match c.focus, ahead with
  | .operand, .token kind => kind.beginsTight || kind == .negation && !refusesNegation c.frames
  | .modality _ _, .token kind => kind.beginsTight || kind == .underscore
  | .subscript _ _, .token kind => kind == .letter || kind == .agent
  | .agent _ _ _, .token kind => kind.beginsTight
  | .quantifier _ _, .token kind => kind == .letter
  | .bound _ _ _, .token kind => kind.beginsTight || kind == .dot
  | .name _, ahead => ahead == .token .opening || canFollowPhrase ahead c.frames
  | .arguments _, .token kind => kind == .letter
  | .argument _ _ _, .token kind => kind == .comma || kind == .closing
  | .separator _ _ _, .token kind => kind == .letter
  | .complete _, ahead => canFollowPhrase ahead c.frames
  | _, .ending => false

/-- The lookaheads that can be read next. -/
def expected (c : Configuration) : List Lookahead :=
  Lookahead.all.filter c.admits

end Configuration

end ModalLanguage
