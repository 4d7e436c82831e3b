/-
Module: ModalLanguage.Grammar
Purpose: The grammar of formulas as derivation trees. The strata of the grammar go from whole
  formulas down to the operands of modal operators, and each connective has the strata of its
  operands in its type: conjunction and disjunction group to the left, implication to the right, and
  a biconditional has no biconditional as an operand without brackets. A tree holds its tokens, so
  the text that it derives, the formula that it means and the reach of its quantifiers can all be
  read off. The grammar is ambiguous: a quantifier with a dot ends in a whole formula, and where
  that formula ends is open.
Main exports: Stratum, Stratum.level, Connective.kind, Connective.stratum, Tree, Tree.tokens,
  Tree.formula, Tree.operators, Tree.wideBodies, Grammatical, Complete, Viable
-/
import ModalLanguage.Formula.Basic
import ModalLanguage.Token.Basic

namespace ModalLanguage

/-- The kind of token that writes a modal operator. -/
def Modality.kind : Modality → Kind
  | .box => .box
  | .diamond => .diamond

/-- The kind of token that writes a quantifier. -/
def Quantifier.kind : Quantifier → Kind
  | .universal => .universal
  | .existential => .existential

/-- The kind of token that writes a truth value. -/
def constantKind (value : Bool) : Kind := if value then .verum else .falsum

/-- The strata of the grammar, from whole formulas to the operands of modal operators. -/
inductive Stratum where
  | formula
  | biconditional
  | implication
  | disjunction
  | conjunction
  | unary
  | tight
deriving DecidableEq, Repr

/-- How tightly the phrases of a stratum bind. -/
def Stratum.level : Stratum → Nat
  | formula => 0
  | biconditional => 1
  | implication => 2
  | disjunction => 3
  | conjunction => 4
  | unary => 5
  | tight => 6

namespace Connective

/-- The kind of token that writes a connective. -/
def kind : Connective → Kind
  | conjunction => .conjunction
  | disjunction => .disjunction
  | implication => .implication
  | biconditional => .biconditional

/-- The stratum of the phrases that a connective makes. -/
def stratum : Connective → Stratum
  | conjunction => .conjunction
  | disjunction => .disjunction
  | implication => .implication
  | biconditional => .biconditional

/-- The stratum of the left operand. -/
def left : Connective → Stratum
  | conjunction => .conjunction
  | disjunction => .disjunction
  | implication => .disjunction
  | biconditional => .implication

/-- The stratum of the right operand. -/
def right : Connective → Stratum
  | conjunction => .unary
  | disjunction => .conjunction
  | implication => .implication
  | biconditional => .implication

end Connective

/-- Derivations of a stratum. The tokens are those of the text, each of the kind that its place
    wants. -/
inductive Tree : Stratum → Type where
  | whole (body : Tree .biconditional) : Tree .formula
  | biconditional (left : Tree .implication) (op : Token) (isOp : op.kind = .biconditional)
      (right : Tree .implication) : Tree .biconditional
  | ofImplication (body : Tree .implication) : Tree .biconditional
  | implication (left : Tree .disjunction) (op : Token) (isOp : op.kind = .implication)
      (right : Tree .implication) : Tree .implication
  | ofDisjunction (body : Tree .disjunction) : Tree .implication
  | disjunction (left : Tree .disjunction) (op : Token) (isOp : op.kind = .disjunction)
      (right : Tree .conjunction) : Tree .disjunction
  | ofConjunction (body : Tree .conjunction) : Tree .disjunction
  | conjunction (left : Tree .conjunction) (op : Token) (isOp : op.kind = .conjunction)
      (right : Tree .unary) : Tree .conjunction
  | ofUnary (body : Tree .unary) : Tree .conjunction
  | negation (op : Token) (isOp : op.kind = .negation) (operand : Tree .unary) : Tree .unary
  | ofTight (body : Tree .tight) : Tree .unary
  | modal (modality : Modality) (op : Token) (isOp : op.kind = modality.kind)
      (operand : Tree .tight) : Tree .tight
  | indexed (modality : Modality) (op : Token) (isOp : op.kind = modality.kind)
      (mark : Token) (isMark : mark.kind = .underscore)
      (agent : Token) (isAgent : agent.kind = .letter ∨ agent.kind = .agent)
      (operand : Tree .tight) : Tree .tight
  | wide (quantifier : Quantifier) (op : Token) (isOp : op.kind = quantifier.kind)
      (bound : Token) (isBound : bound.kind = .letter) (dot : Token) (isDot : dot.kind = .dot)
      (body : Tree .formula) : Tree .tight
  | narrow (quantifier : Quantifier) (op : Token) (isOp : op.kind = quantifier.kind)
      (bound : Token) (isBound : bound.kind = .letter) (body : Tree .tight) : Tree .tight
  | predicate (name : Token) (isName : name.kind = .letter)
      (opening : Token) (isOpening : opening.kind = .opening)
      (first : Token) (isFirst : first.kind = .letter) (rest : List (Token × Token))
      (isRest : ∀ pair ∈ rest, pair.1.kind = .comma ∧ pair.2.kind = .letter)
      (closing : Token) (isClosing : closing.kind = .closing) : Tree .tight
  | atom (name : Token) (isName : name.kind = .letter) : Tree .tight
  | constant (value : Bool) (token : Token) (isValue : token.kind = constantKind value) :
      Tree .tight
  | bracketed (opening : Token) (isOpening : opening.kind = .opening) (body : Tree .formula)
      (closing : Token) (isClosing : closing.kind = .closing) : Tree .tight

namespace Tree

/-- The tokens that a tree derives, in order. -/
def tokens : {s : Stratum} → Tree s → List Token
  | _, whole body => body.tokens
  | _, biconditional left op _ right => left.tokens ++ op :: right.tokens
  | _, ofImplication body => body.tokens
  | _, implication left op _ right => left.tokens ++ op :: right.tokens
  | _, ofDisjunction body => body.tokens
  | _, disjunction left op _ right => left.tokens ++ op :: right.tokens
  | _, ofConjunction body => body.tokens
  | _, conjunction left op _ right => left.tokens ++ op :: right.tokens
  | _, ofUnary body => body.tokens
  | _, negation op _ operand => op :: operand.tokens
  | _, ofTight body => body.tokens
  | _, modal _ op _ operand => op :: operand.tokens
  | _, indexed _ op _ mark _ agent _ operand => op :: mark :: agent :: operand.tokens
  | _, wide _ op _ bound _ dot _ body => op :: bound :: dot :: body.tokens
  | _, narrow _ op _ bound _ body => op :: bound :: body.tokens
  | _, predicate name _ opening _ first _ rest _ closing _ =>
    name :: opening :: first :: rest.flatMap (fun pair => [pair.1, pair.2]) ++ [closing]
  | _, atom name _ => [name]
  | _, constant _ token _ => [token]
  | _, bracketed opening _ body closing _ => opening :: body.tokens ++ [closing]

/-- Whether the name of every agent is that of an agent. -/
def agentsKnown : {s : Stratum} → Tree s → Bool
  | _, whole body => body.agentsKnown
  | _, biconditional left _ _ right => left.agentsKnown && right.agentsKnown
  | _, ofImplication body => body.agentsKnown
  | _, implication left _ _ right => left.agentsKnown && right.agentsKnown
  | _, ofDisjunction body => body.agentsKnown
  | _, disjunction left _ _ right => left.agentsKnown && right.agentsKnown
  | _, ofConjunction body => body.agentsKnown
  | _, conjunction left _ _ right => left.agentsKnown && right.agentsKnown
  | _, ofUnary body => body.agentsKnown
  | _, negation _ _ operand => operand.agentsKnown
  | _, ofTight body => body.agentsKnown
  | _, modal _ _ _ operand => operand.agentsKnown
  | _, indexed _ _ _ _ _ agent _ operand =>
    (Agent.ofName? agent.value).isSome && operand.agentsKnown
  | _, wide _ _ _ _ _ _ _ body => body.agentsKnown
  | _, narrow _ _ _ _ _ body => body.agentsKnown
  | _, predicate _ _ _ _ _ _ _ _ _ _ => true
  | _, atom _ _ => true
  | _, constant _ _ _ => true
  | _, bracketed _ _ body _ _ => body.agentsKnown

/-- The formula that a tree means. The name of an agent that is none is dropped, so the meaning is
    that of the text only when every agent is known. -/
def formula : {s : Stratum} → Tree s → Formula
  | _, whole body => body.formula
  | _, biconditional left _ _ right => .binary .biconditional left.formula right.formula
  | _, ofImplication body => body.formula
  | _, implication left _ _ right => .binary .implication left.formula right.formula
  | _, ofDisjunction body => body.formula
  | _, disjunction left _ _ right => .binary .disjunction left.formula right.formula
  | _, ofConjunction body => body.formula
  | _, conjunction left _ _ right => .binary .conjunction left.formula right.formula
  | _, ofUnary body => body.formula
  | _, negation _ _ operand => .negation operand.formula
  | _, ofTight body => body.formula
  | _, modal modality _ _ operand => .modal modality none operand.formula
  | _, indexed modality _ _ _ _ agent _ operand =>
    .modal modality (Agent.ofName? agent.value) operand.formula
  | _, wide quantifier _ _ bound _ _ _ body => .quantified quantifier bound.value body.formula
  | _, narrow quantifier _ _ bound _ body => .quantified quantifier bound.value body.formula
  | _, predicate name _ _ _ first _ rest _ _ _ =>
    .predicate name.value first.value (rest.map fun pair => pair.2.value)
  | _, atom name _ => .atom name.value
  | _, constant value _ _ => .constant value
  | _, bracketed _ _ body _ _ => body.formula

/-- The operators of a tree with the formulas that they make, each behind those of its operands and
    the left operand first. -/
def operators : {s : Stratum} → Tree s → List (Token × Formula)
  | _, whole body => body.operators
  | _, biconditional left op isOp right =>
    left.operators ++ right.operators ++ [(op, (biconditional left op isOp right).formula)]
  | _, ofImplication body => body.operators
  | _, implication left op isOp right =>
    left.operators ++ right.operators ++ [(op, (implication left op isOp right).formula)]
  | _, ofDisjunction body => body.operators
  | _, disjunction left op isOp right =>
    left.operators ++ right.operators ++ [(op, (disjunction left op isOp right).formula)]
  | _, ofConjunction body => body.operators
  | _, conjunction left op isOp right =>
    left.operators ++ right.operators ++ [(op, (conjunction left op isOp right).formula)]
  | _, ofUnary body => body.operators
  | _, negation op _ operand => operand.operators ++ [(op, .negation operand.formula)]
  | _, ofTight body => body.operators
  | _, modal modality op _ operand =>
    operand.operators ++ [(op, .modal modality none operand.formula)]
  | _, indexed modality op _ _ _ agent _ operand =>
    operand.operators ++ [(op, .modal modality (Agent.ofName? agent.value) operand.formula)]
  | _, wide quantifier op _ bound _ _ _ body =>
    body.operators ++ [(op, .quantified quantifier bound.value body.formula)]
  | _, narrow quantifier op _ bound _ body =>
    body.operators ++ [(op, .quantified quantifier bound.value body.formula)]
  | _, predicate _ _ _ _ _ _ _ _ _ _ => []
  | _, atom _ _ => []
  | _, constant _ _ _ => []
  | _, bracketed _ _ body _ _ => body.operators

/-- The quantifiers with a dot, each by the place of its token and the place behind its body, when
    the tree begins at a given place of a list of tokens. -/
def wideBodies : {s : Stratum} → Tree s → (place : Nat) → List (Nat × Nat)
  | _, whole body, place => body.wideBodies place
  | _, biconditional left _ _ right, place =>
    left.wideBodies place ++ right.wideBodies (place + left.tokens.length + 1)
  | _, ofImplication body, place => body.wideBodies place
  | _, implication left _ _ right, place =>
    left.wideBodies place ++ right.wideBodies (place + left.tokens.length + 1)
  | _, ofDisjunction body, place => body.wideBodies place
  | _, disjunction left _ _ right, place =>
    left.wideBodies place ++ right.wideBodies (place + left.tokens.length + 1)
  | _, ofConjunction body, place => body.wideBodies place
  | _, conjunction left _ _ right, place =>
    left.wideBodies place ++ right.wideBodies (place + left.tokens.length + 1)
  | _, ofUnary body, place => body.wideBodies place
  | _, negation _ _ operand, place => operand.wideBodies (place + 1)
  | _, ofTight body, place => body.wideBodies place
  | _, modal _ _ _ operand, place => operand.wideBodies (place + 1)
  | _, indexed _ _ _ _ _ _ _ operand, place => operand.wideBodies (place + 3)
  | _, wide _ _ _ _ _ _ _ body, place =>
    (place, place + 3 + body.tokens.length) :: body.wideBodies (place + 3)
  | _, narrow _ _ _ _ _ body, place => body.wideBodies (place + 2)
  | _, predicate _ _ _ _ _ _ _ _ _ _, _ => []
  | _, atom _ _, _ => []
  | _, constant _ _ _, _ => []
  | _, bracketed _ _ body _ _, place => body.wideBodies (place + 1)

/-- No stratum derives the empty list of tokens. -/
theorem tokens_ne_nil {s : Stratum} (t : Tree s) : t.tokens ≠ [] := by
  induction t <;> simp_all [tokens]

end Tree

/-- A list of tokens is grammatical when it is derived with known agents. -/
def Grammatical (tokens : List Token) : Prop :=
  ∃ tree : Tree .formula, tree.tokens = tokens ∧ tree.agentsKnown = true

/-- A list of kinds is complete when some formula has just these kinds of tokens, whatever its
    names. -/
def Complete (kinds : List Kind) : Prop :=
  ∃ tree : Tree .formula, tree.tokens.map Token.kind = kinds

/-- A list of kinds is viable when it begins a complete one. -/
def Viable (kinds : List Kind) : Prop :=
  ∃ rest : List Kind, Complete (kinds ++ rest)

end ModalLanguage
