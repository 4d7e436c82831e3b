/-
Module: ModalLanguage.Automaton.Table
Purpose: The grammar read bottom up. A state of the automaton says how far into the bodies of the
  rules the reading has come, and the table says for a state and a lookahead whether to shift the
  token, to reduce by a rule, or to accept. Most states stand at an operand that is still to come
  (`awaiting`), or behind it (`filled`); an operand that is not yet loose enough for its place is
  `inner`. Where a rule is complete and a token could be shifted too, the token is shifted.
Main exports: Nonterminal, Rule, Rule.body, Slot, State, State.shift, State.goto, State.completed?,
  Rule.follows, State.action
-/
import ModalLanguage.Grammar
import ModalLanguage.Parser.Lookahead

namespace ModalLanguage.Automaton

/-- What is an operand of a modal operator by itself. -/
inductive Base where
  | quantified
  | predicate
  | atom
deriving DecidableEq, Repr

/-- What the rules of the grammar make. The goal is a whole formula with nothing behind it. -/
inductive Nonterminal where
  | goal
  | stratum (s : Stratum)
  | base (b : Base)
  | agent
  | arguments
deriving DecidableEq, Repr

/-- What stands in the body of a rule. -/
inductive Symbol where
  | token (kind : Kind)
  | phrase (result : Nonterminal)
deriving DecidableEq, Repr

/-- The rules of the grammar. -/
inductive Rule where
  /-- A phrase counts as one of the next looser stratum, and a whole formula as the goal. -/
  | loosen (s : Stratum)
  | binary (op : Connective)
  | negation
  | modal (op : Modality)
  | indexed (op : Modality)
  | base (b : Base)
  | agent (isLetter : Bool)
  | wide (op : Quantifier)
  | narrow (op : Quantifier)
  | predicate
  | firstArgument
  | nextArgument
  | atom
  | constant (value : Bool)
  | bracketed
deriving DecidableEq, Repr

/-- The kinds of tokens that name an agent. -/
def agentKind (isLetter : Bool) : Kind := if isLetter then .letter else .agent

namespace Rule

/-- What a rule makes. -/
def result : Rule → Nonterminal
  | loosen .formula => .goal
  | loosen .biconditional => .stratum .formula
  | loosen .implication => .stratum .biconditional
  | loosen .disjunction => .stratum .implication
  | loosen .conjunction => .stratum .disjunction
  | loosen .unary => .stratum .conjunction
  | loosen .tight => .stratum .unary
  | binary op => .stratum op.stratum
  | negation => .stratum .unary
  | modal _ => .stratum .tight
  | indexed _ => .stratum .tight
  | base _ => .stratum .tight
  | agent _ => .agent
  | wide _ => .base .quantified
  | narrow _ => .base .quantified
  | predicate => .base .predicate
  | firstArgument => .arguments
  | nextArgument => .arguments
  | atom => .base .atom
  | constant _ => .base .atom
  | bracketed => .base .atom

/-- What a rule makes it of. -/
def body : Rule → List Symbol
  | loosen s => [.phrase (.stratum s)]
  | binary op => [.phrase (.stratum op.left), .token op.kind, .phrase (.stratum op.right)]
  | negation => [.token .negation, .phrase (.stratum .unary)]
  | modal op => [.token op.kind, .phrase (.stratum .tight)]
  | indexed op =>
    [.token op.kind, .token .underscore, .phrase .agent, .phrase (.stratum .tight)]
  | base b => [.phrase (.base b)]
  | agent isLetter => [.token (agentKind isLetter)]
  | wide op => [.token op.kind, .token .letter, .token .dot, .phrase (.stratum .formula)]
  | narrow op => [.token op.kind, .token .letter, .phrase (.stratum .tight)]
  | predicate => [.token .letter, .token .opening, .phrase .arguments, .token .closing]
  | firstArgument => [.token .letter]
  | nextArgument => [.phrase .arguments, .token .comma, .token .letter]
  | atom => [.token .letter]
  | constant value => [.token (constantKind value)]
  | bracketed => [.token .opening, .phrase (.stratum .formula), .token .closing]

/-- A phrase that is not a whole formula is loosened by one stratum. -/
theorem exists_result_loosen {s : Stratum} (notFormula : s ≠ .formula) :
    ∃ s' : Stratum, s'.level + 1 = s.level ∧ (loosen s).result = .stratum s' := by
  cases s with
  | formula => exact absurd rfl notFormula
  | _ => exact ⟨_, rfl, rfl⟩

theorem body_ne_nil (rule : Rule) : rule.body ≠ [] := by
  cases rule <;> exact List.cons_ne_nil _ _

/-- The lookaheads before which a complete rule is reduced. The goal is only reached at the end. -/
def follows : Rule → Lookahead → Bool
  | loosen .formula, ahead => ahead == .ending
  | agent _, .token kind => kind.beginsTight
  | agent _, .ending => false
  | firstArgument, ahead => ahead == .token .comma || ahead == .token .closing
  | nextArgument, ahead => ahead == .token .comma || ahead == .token .closing
  | _, ahead => ahead.follower?.isSome

end Rule

/-- The places in the bodies of the rules at which an operand stands that comes last, or last but a
    closing bracket. -/
inductive Slot where
  | bracket
  | negation
  | modal (op : Modality)
  | indexed (op : Modality)
  | narrow (op : Quantifier)
  | wide (op : Quantifier)
  | right (op : Connective)
deriving DecidableEq, Repr

namespace Slot

/-- The stratum of the operand that a place wants. -/
def wants : Slot → Stratum
  | bracket => .formula
  | negation => .unary
  | modal _ => .tight
  | indexed _ => .tight
  | narrow _ => .tight
  | wide _ => .formula
  | right op => op.right

/-- The rule that the operand completes. -/
def rule? : Slot → Option Rule
  | bracket => none
  | negation => some .negation
  | modal op => some (.modal op)
  | indexed op => some (.indexed op)
  | narrow op => some (.narrow op)
  | wide op => some (.wide op)
  | right op => some (.binary op)

end Slot

/-- The states of the automaton, each named for what was shifted or reduced last. -/
inductive State where
  /-- Nothing was read. -/
  | start
  /-- An operand is to come at a place. -/
  | awaiting (slot : Slot)
  /-- The operand at a place was read. -/
  | filled (slot : Slot)
  /-- A phrase was read that is a part of the operand to come, or can be loosened to it. -/
  | inner (s : Stratum)
  | subscript (op : Modality)
  | agent (isLetter : Bool)
  | quantifier (op : Quantifier)
  | name
  | opened
  | firstArgument
  | arguments
  | comma
  | nextArgument
  | closed
  | constant (value : Bool)
  | bracketed
  | base (b : Base)
deriving DecidableEq, Repr

/-- What the table prescribes. -/
inductive Action where
  | shift (next : State)
  | reduce (rule : Rule)
  | accept
deriving DecidableEq, Repr

namespace State

/-- The stratum of the operand that is to come. -/
def hole? : State → Option Stratum
  | start => some .formula
  | awaiting slot => some slot.wants
  | _ => none

/-- The state behind the first token of an operand. -/
def beginning (wanted : Stratum) : Kind → Option State
  | .letter => some .name
  | .verum => some (.constant true)
  | .falsum => some (.constant false)
  | .box => some (.awaiting (.modal .box))
  | .diamond => some (.awaiting (.modal .diamond))
  | .universal => some (.quantifier .universal)
  | .existential => some (.quantifier .existential)
  | .opening => some (.awaiting .bracket)
  | .negation => if wanted = .tight then none else some (.awaiting .negation)
  | _ => none

/-- The state behind a connective whose left operand is a phrase of a stratum. -/
def joining (s : Stratum) (kind : Kind) : Option State :=
  match kind.connective? with
  | some op => if op.left = s then some (.awaiting (.right op)) else none
  | none => none

/-- The state behind a token. -/
def shift : State → Kind → Option State
  | start, kind => beginning .formula kind
  | awaiting (.modal op), .underscore => some (.subscript op)
  | awaiting (.narrow op), .dot => some (.awaiting (.wide op))
  | awaiting slot, kind => beginning slot.wants kind
  | filled .bracket, .closing => some .bracketed
  | filled (.right .disjunction), kind => joining .conjunction kind
  | inner s, kind => joining s kind
  | subscript _, .letter => some (.agent true)
  | subscript _, .agent => some (.agent false)
  | quantifier op, .letter => some (.awaiting (.narrow op))
  | name, .opening => some .opened
  | opened, .letter => some .firstArgument
  | arguments, .comma => some .comma
  | arguments, .closing => some .closed
  | comma, .letter => some .nextArgument
  | _, _ => none

section Shift

variable (kind : Kind)

theorem shift_modal (op : Modality) : (awaiting (.modal op)).shift kind =
    if kind = .underscore then some (.subscript op) else beginning .tight kind := by
  cases kind <;> rfl

theorem shift_narrow (op : Quantifier) : (awaiting (.narrow op)).shift kind =
    if kind = .dot then some (.awaiting (.wide op)) else beginning .tight kind := by
  cases kind <;> rfl

theorem shift_subscript (op : Modality) : (subscript op).shift kind =
    if kind = .letter ∨ kind = .agent then some (.agent (kind == .letter)) else none := by
  cases kind <;> rfl

theorem shift_quantifier (op : Quantifier) : (quantifier op).shift kind =
    if kind = .letter then some (.awaiting (.narrow op)) else none := by
  cases kind <;> rfl

theorem shift_name : name.shift kind = if kind = .opening then some .opened else none := by
  cases kind <;> rfl

theorem shift_opened : opened.shift kind = if kind = .letter then some .firstArgument else none := by
  cases kind <;> rfl

theorem shift_comma : comma.shift kind = if kind = .letter then some .nextArgument else none := by
  cases kind <;> rfl

end Shift

/-- The state behind a lookahead. Nothing is shifted at the end. -/
def shift? (state : State) : Lookahead → Option State
  | .token kind => state.shift kind
  | .ending => none

/-- The state behind a phrase of a stratum that stands where an operand is to come. -/
def place : State → Stratum → State
  | awaiting slot, s => if s = slot.wants then .filled slot else .inner s
  | _, s => .inner s

/-- The state behind what a rule has made. -/
def goto (state : State) : Nonterminal → Option State
  | .goal => none
  | .stratum s =>
    match state.hole? with
    | some wanted => if wanted.level ≤ s.level then some (state.place s) else none
    | none => none
  | .base b => if state.hole?.isSome then some (.base b) else none
  | .agent =>
    match state with
    | subscript op => some (.awaiting (.indexed op))
    | _ => none
  | .arguments =>
    match state with
    | opened => some .arguments
    | _ => none

/-- The rule that is complete in a state. No state completes two. -/
def completed? : State → Option Rule
  | filled slot => slot.rule?
  | inner s => some (.loosen s)
  | agent isLetter => some (.agent isLetter)
  | name => some .atom
  | firstArgument => some .firstArgument
  | nextArgument => some .nextArgument
  | closed => some .predicate
  | constant value => some (.constant value)
  | bracketed => some .bracketed
  | base b => some (.base b)
  | _ => none

/-- What is done when no token is shifted. -/
def reduction (state : State) (ahead : Lookahead) : Option Action :=
  match state.completed? with
  | some rule =>
    if rule.follows ahead then
      if rule = .loosen .formula then some .accept else some (.reduce rule)
    else none
  | none => none

/-- What is done in a state before a lookahead, if anything can be. -/
def action (state : State) (ahead : Lookahead) : Option Action :=
  match state.shift? ahead with
  | some next => some (.shift next)
  | none => state.reduction ahead

end State

end ModalLanguage.Automaton
