/-
Module: ModalLanguage.Proofs.Strata
Purpose: The order of the strata. A phrase of a higher level can stand wherever one of a lower level
  is wanted. The connectives, the operators and the open frames of a reading are placed in this
  order, so that questions of precedence become comparisons of numbers: an operator takes the phrase
  behind it exactly when the next connective is below the level of its operand.
Main exports: Stratum.level_le_tight, Connective.stratum_le_left, Follower.ahead, Tree.root?,
  Tree.binary, Tree.exists_lift, Operator.operand, hole, Nested, Operator.closedBy_connective,
  Tree.agentsKnown_iff
-/
import Mathlib.Data.List.Chain
import ModalLanguage.Parser.Step
import ModalLanguage.Proofs.Scope

namespace ModalLanguage

theorem Stratum.level_le_tight (s : Stratum) : s.level ≤ Stratum.tight.level := by
  cases s <;> decide

theorem Stratum.level_injective : Function.Injective level := by
  intro s s' same
  cases s <;> cases s' <;> first | rfl | cases same

namespace Connective

@[simp] theorem connective?_kind (op : Connective) : op.kind.connective? = some op := by
  cases op <;> rfl

/-- A connective takes its right operand before one that is looser than that operand. -/
theorem closedBy_connective (first next : Connective) :
    first.closedBy (.connective next) = true ↔ next.stratum.level < first.right.level := by
  cases first <;> cases next <;> decide

theorem stratum_le_left (op : Connective) : op.stratum.level ≤ op.left.level := by
  cases op <;> decide

theorem left_le_succ_stratum (op : Connective) : op.left.level ≤ op.stratum.level + 1 := by
  cases op <;> decide

theorem left_le_unary (op : Connective) : op.left.level ≤ Stratum.unary.level := by
  cases op <;> decide

theorem right_le_unary (op : Connective) : op.right.level ≤ Stratum.unary.level := by
  cases op <;> decide

theorem two_le_left (op : Connective) : 2 ≤ op.left.level := by
  cases op <;> decide

theorem two_le_right (op : Connective) : 2 ≤ op.right.level := by
  cases op <;> decide

end Connective

/-! ### What begins and what follows a phrase -/

theorem Kind.ne_underscore_of_beginsTight {kind : Kind} (begins : kind.beginsTight = true) :
    kind ≠ .underscore := by
  rintro rfl
  cases begins

theorem Kind.ne_dot_of_beginsTight {kind : Kind} (begins : kind.beginsTight = true) :
    kind ≠ .dot := by
  rintro rfl
  cases begins

/-- A follower as a lookahead. -/
def Follower.ahead : Follower → Lookahead
  | connective op => .token op.kind
  | closing => .token .closing
  | ending => .ending

theorem Lookahead.follower?_eq_some_iff {ahead : Lookahead} {next : Follower} :
    ahead.follower? = some next ↔ ahead = next.ahead := by
  cases ahead with
  | ending => cases next <;> simp [follower?, Follower.ahead]
  | token kind =>
      cases next with
      | connective op => cases kind <;> cases op <;> decide
      | closing => cases kind <;> decide
      | ending => cases kind <;> decide

@[simp] theorem Follower.follower?_ahead (next : Follower) : next.ahead.follower? = some next :=
  Lookahead.follower?_eq_some_iff.2 rfl

namespace Tree

/-- Whether a tree can stand in front of a follower: a connective wants a left operand of its
    stratum, except that a biconditional can also stand behind another one that is a whole body. -/
def Precedes {s : Stratum} (t : Tree s) : Follower → Prop
  | .connective op =>
    op.left.level ≤ s.level ∨ op = .biconditional ∧ t.isBiconditional = true
  | .closing => True
  | .ending => True

/-- The token of the operator that makes a tree of its operands. Leaves have none, and neither does
    a tree that stands in brackets. -/
def root? : {s : Stratum} → Tree s → Option Token
  | _, whole body => body.root?
  | _, biconditional _ op _ _ => some op
  | _, ofImplication body => body.root?
  | _, implication _ op _ _ => some op
  | _, ofDisjunction body => body.root?
  | _, disjunction _ op _ _ => some op
  | _, ofConjunction body => body.root?
  | _, conjunction _ op _ _ => some op
  | _, ofUnary body => body.root?
  | _, negation op _ _ => some op
  | _, ofTight body => body.root?
  | _, modal _ op _ _ => some op
  | _, indexed _ op _ _ _ _ _ _ => some op
  | _, wide _ op _ _ _ _ _ _ => some op
  | _, narrow _ op _ _ _ _ => some op
  | _, predicate _ _ _ _ _ _ _ _ _ _ => none
  | _, atom _ _ => none
  | _, constant _ _ _ => none
  | _, bracketed _ _ _ _ _ => none

/-! ### Trees of connectives, all four alike -/

/-- The tree of a connective over its operands. -/
def binary (op : Connective) (left : Tree op.left) (token : Token) (isOp : token.kind = op.kind)
    (right : Tree op.right) : Tree op.stratum :=
  match op, left, isOp, right with
  | .conjunction, left, isOp, right => conjunction left token isOp right
  | .disjunction, left, isOp, right => disjunction left token isOp right
  | .implication, left, isOp, right => implication left token isOp right
  | .biconditional, left, isOp, right => biconditional left token isOp right

section Binary

variable (op : Connective) (left : Tree op.left) (token : Token) (isOp : token.kind = op.kind)
  (right : Tree op.right)

@[simp] theorem tokens_binary :
    (binary op left token isOp right).tokens = left.tokens ++ token :: right.tokens := by
  cases op <;> rfl

@[simp] theorem formula_binary :
    (binary op left token isOp right).formula = .binary op left.formula right.formula := by
  cases op <;> rfl

@[simp] theorem agentsKnown_binary :
    (binary op left token isOp right).agentsKnown = (left.agentsKnown && right.agentsKnown) := by
  cases op <;> rfl

@[simp] theorem isBiconditional_binary :
    (binary op left token isOp right).isBiconditional = (op == .biconditional) := by
  cases op <;> rfl

@[simp] theorem root?_binary : (binary op left token isOp right).root? = some token := by
  cases op <;> rfl

theorem widest_binary (ahead : Lookahead) :
    (binary op left token isOp right).Widest ahead ↔
      left.Widest (.token token.kind) ∧ right.Widest ahead := by
  cases op <;> rfl

end Binary

/-- Only whole formulas and biconditionals can be biconditionals without brackets. -/
theorem isBiconditional_eq_false {s : Stratum} (t : Tree s) (tighter : 2 ≤ s.level) :
    t.isBiconditional = false := by
  cases t <;> first | rfl | simp [Stratum.level] at tighter

/-! ### A phrase in the place of a looser one -/

/-- Two trees, perhaps of different strata, that cannot be told apart by what they derive. -/
structure Alike {s s' : Stratum} (t : Tree s) (t' : Tree s') : Prop where
  tokens : t'.tokens = t.tokens
  formula : t'.formula = t.formula
  agentsKnown : t'.agentsKnown = t.agentsKnown
  isBiconditional : t'.isBiconditional = t.isBiconditional
  widest : ∀ ahead, t'.Widest ahead ↔ t.Widest ahead

theorem Alike.refl {s : Stratum} (t : Tree s) : Alike t t :=
  ⟨rfl, rfl, rfl, rfl, fun _ => Iff.rfl⟩

theorem Alike.trans {s s' s'' : Stratum} {t : Tree s} {t' : Tree s'} {t'' : Tree s''}
    (first : Alike t t') (second : Alike t' t'') : Alike t t'' where
  tokens := second.tokens.trans first.tokens
  formula := second.formula.trans first.formula
  agentsKnown := second.agentsKnown.trans first.agentsKnown
  isBiconditional := second.isBiconditional.trans first.isBiconditional
  widest ahead := (second.widest ahead).trans (first.widest ahead)

/-- Every stratum but the loosest has a rule that makes its trees ones of the next stratum. -/
theorem exists_unit {s : Stratum} (t : Tree s) (bound : 0 < s.level) :
    ∃ (s' : Stratum) (t' : Tree s'), s'.level + 1 = s.level ∧ Alike t t' := by
  cases s with
  | formula => exact absurd bound (by decide)
  | biconditional => exact ⟨_, whole t, rfl, rfl, rfl, rfl, rfl, fun _ => Iff.rfl⟩
  | implication =>
      have both := t.isBiconditional_eq_false (by decide)
      exact ⟨_, ofImplication t, rfl, rfl, rfl, rfl, both.symm, fun _ => Iff.rfl⟩
  | disjunction =>
      have both := t.isBiconditional_eq_false (by decide)
      exact ⟨_, ofDisjunction t, rfl, rfl, rfl, rfl, both.symm, fun _ => Iff.rfl⟩
  | conjunction =>
      have both := t.isBiconditional_eq_false (by decide)
      exact ⟨_, ofConjunction t, rfl, rfl, rfl, rfl, both.symm, fun _ => Iff.rfl⟩
  | unary =>
      have both := t.isBiconditional_eq_false (by decide)
      exact ⟨_, ofUnary t, rfl, rfl, rfl, rfl, both.symm, fun _ => Iff.rfl⟩
  | tight =>
      have both := t.isBiconditional_eq_false (by decide)
      exact ⟨_, ofTight t, rfl, rfl, rfl, rfl, both.symm, fun _ => Iff.rfl⟩

/-- A tree of one stratum counts as one of every looser stratum. -/
theorem exists_lift {s : Stratum} (t : Tree s) (target : Stratum)
    (looser : target.level ≤ s.level) : ∃ t' : Tree target, Alike t t' := by
  obtain ⟨gap, levels⟩ := Nat.exists_eq_add_of_le looser
  induction gap generalizing s with
  | zero =>
      obtain rfl := Stratum.level_injective levels
      exact ⟨t, Alike.refl t⟩
  | succ gap ih =>
      obtain ⟨s', t', below, alike⟩ := t.exists_unit (by omega)
      obtain ⟨t'', alike'⟩ := ih t' (by omega) (by omega)
      exact ⟨t'', alike.trans alike'⟩

/-! ### The tokens of a tree -/

/-- An operand of a modal operator begins with a token that can begin one. -/
theorem exists_tokens_eq_cons (t : Tree .tight) :
    ∃ token rest, t.tokens = token :: rest ∧ token.kind.beginsTight = true := by
  cases t with
  | modal modality op isOp | indexed modality op isOp =>
      exact ⟨_, _, rfl, by rw [isOp]; cases modality <;> rfl⟩
  | wide quantifier op isOp | narrow quantifier op isOp =>
      exact ⟨_, _, rfl, by rw [isOp]; cases quantifier <;> rfl⟩
  | predicate name isName => exact ⟨_, _, rfl, by rw [isName]; rfl⟩
  | atom name isName => exact ⟨_, _, rfl, by rw [isName]; rfl⟩
  | constant value token isValue => exact ⟨_, _, rfl, by rw [isValue]; cases value <;> rfl⟩
  | bracketed opening isOpening => exact ⟨_, _, rfl, by rw [isOpening]; rfl⟩

/-- Every node of a formula is written by a token of its own. -/
theorem size_formula_le {s : Stratum} (t : Tree s) : t.formula.size ≤ t.tokens.length := by
  induction t with
  | whole body ih | ofImplication body ih | ofDisjunction body ih | ofConjunction body ih
  | ofUnary body ih | ofTight body ih => exact ih
  | biconditional left op isOp right ihLeft ihRight
  | implication left op isOp right ihLeft ihRight
  | disjunction left op isOp right ihLeft ihRight
  | conjunction left op isOp right ihLeft ihRight =>
      simp only [Tree.formula, Tree.tokens, Formula.size, List.length_append, List.length_cons]
      omega
  | negation op isOp operand ih | modal modality op isOp operand ih
  | indexed modality op isOp mark isMark agent isAgent operand ih
  | wide quantifier op isOp bound isBound dot isDot operand ih
  | narrow quantifier op isOp bound isBound operand ih =>
      simp only [Tree.formula, Tree.tokens, Formula.size, List.length_cons]
      omega
  | predicate | atom | constant => simp [Tree.formula, Tree.tokens, Formula.size]
  | bracketed opening isOpening body closing isClosing ih =>
      simp only [Tree.formula, Tree.tokens, List.length_append, List.length_cons]
      omega

end Tree

/-- Behind every underscore stands the name of an agent. -/
def AgentsNamed (tokens : List Token) : Prop :=
  tokens.IsChain fun mark name =>
    mark.kind = .underscore → (Agent.ofName? name.value).isSome = true

theorem agentsNamed_cons {token : Token} {rest : List Token} (plain : token.kind ≠ .underscore) :
    AgentsNamed (token :: rest) ↔ AgentsNamed rest := by
  simp [AgentsNamed, List.isChain_cons, plain]

theorem agentsNamed_underscore {mark name : Token} {rest : List Token}
    (isMark : mark.kind = .underscore) :
    AgentsNamed (mark :: name :: rest) ↔
      (Agent.ofName? name.value).isSome = true ∧ AgentsNamed (name :: rest) := by
  simp [AgentsNamed, isMark]

theorem agentsNamed_pairTokens {pairs : List (Token × Token)} (arePairs : ArePairs pairs)
    (rest : List Token) : AgentsNamed (pairTokens pairs ++ rest) ↔ AgentsNamed rest := by
  induction pairs with
  | nil => rfl
  | cons pair pairs ih =>
      obtain ⟨isPair, areRest⟩ := List.forall_mem_cons.1 arePairs
      simp only [pairTokens, List.flatMap_cons, List.cons_append, List.nil_append] at ih ⊢
      rw [agentsNamed_cons (by simp [isPair.1]), agentsNamed_cons (by simp [isPair.2]), ih areRest]

namespace Tree

/-- Whatever follows a tree, the agents in its tokens are those of the tree. -/
theorem agentsNamed_append {s : Stratum} (t : Tree s) (rest : List Token) :
    AgentsNamed (t.tokens ++ rest) ↔ t.agentsKnown = true ∧ AgentsNamed rest := by
  induction t generalizing rest with
  | whole body ih | ofImplication body ih | ofDisjunction body ih | ofConjunction body ih
  | ofUnary body ih | ofTight body ih => exact ih rest
  | biconditional left op isOp right ihLeft ihRight
  | implication left op isOp right ihLeft ihRight
  | disjunction left op isOp right ihLeft ihRight
  | conjunction left op isOp right ihLeft ihRight =>
      rw [Tree.tokens, List.append_assoc, List.cons_append, ihLeft,
        agentsNamed_cons (by simp [isOp]), ihRight, agentsKnown, Bool.and_eq_true, and_assoc]
  | negation op isOp operand ih =>
      rw [Tree.tokens, List.cons_append, agentsNamed_cons (by simp [isOp]), ih, agentsKnown]
  | modal modality op isOp operand ih =>
      have plain : op.kind ≠ .underscore := by rw [isOp]; cases modality <;> decide
      rw [Tree.tokens, List.cons_append, agentsNamed_cons plain, ih, agentsKnown]
  | indexed modality op isOp mark isMark agent isAgent operand ih =>
      have plain : op.kind ≠ .underscore := by rw [isOp]; cases modality <;> decide
      have plainAgent : agent.kind ≠ .underscore := by
        rcases isAgent with isAgent | isAgent <;> simp [isAgent]
      simp only [Tree.tokens, List.cons_append]
      rw [agentsNamed_cons plain, agentsNamed_underscore isMark, agentsNamed_cons plainAgent, ih,
        agentsKnown, Bool.and_eq_true, and_assoc]
  | wide quantifier op isOp bound isBound dot isDot body ih =>
      have plain : op.kind ≠ .underscore := by rw [isOp]; cases quantifier <;> decide
      simp only [Tree.tokens, List.cons_append]
      rw [agentsNamed_cons plain, agentsNamed_cons (by simp [isBound]),
        agentsNamed_cons (by simp [isDot]), ih, agentsKnown]
  | narrow quantifier op isOp bound isBound body ih =>
      have plain : op.kind ≠ .underscore := by rw [isOp]; cases quantifier <;> decide
      simp only [Tree.tokens, List.cons_append]
      rw [agentsNamed_cons plain, agentsNamed_cons (by simp [isBound]), ih, agentsKnown]
  | predicate name isName opening isOpening first isFirst pairs arePairs closing isClosing =>
      have more := agentsNamed_pairTokens arePairs (closing :: rest)
      rw [pairTokens] at more
      simp only [Tree.tokens, List.cons_append, List.append_assoc, List.nil_append]
      rw [agentsNamed_cons (by simp [isName]), agentsNamed_cons (by simp [isOpening]),
        agentsNamed_cons (by simp [isFirst]), more, agentsNamed_cons (by simp [isClosing])]
      simp [agentsKnown]
  | atom name isName =>
      rw [Tree.tokens, List.singleton_append, agentsNamed_cons (by simp [isName])]
      simp [agentsKnown]
  | constant value token isValue =>
      have plain : token.kind ≠ .underscore := by rw [isValue]; cases value <;> decide
      rw [Tree.tokens, List.singleton_append, agentsNamed_cons plain]
      simp [agentsKnown]
  | bracketed opening isOpening body closing isClosing ih =>
      simp only [Tree.tokens, List.cons_append, List.append_assoc, List.nil_append]
      rw [agentsNamed_cons (by simp [isOpening]), ih, agentsNamed_cons (by simp [isClosing]),
        agentsKnown]

theorem agentsKnown_iff {s : Stratum} (t : Tree s) :
    t.agentsKnown = true ↔ AgentsNamed t.tokens := by
  have alone := t.agentsNamed_append []
  simpa [AgentsNamed] using alone.symm

end Tree

/-! ### Open frames -/

namespace Operator

/-- The stratum of the phrases that an operator makes. -/
def stratum : Operator → Stratum
  | negation => .unary
  | modal _ _ => .tight
  | narrow _ _ => .tight
  | wide _ _ => .tight
  | binary op _ => op.stratum

/-- The stratum of the operand that an operator waits for. -/
def operand : Operator → Stratum
  | negation => .unary
  | modal _ _ => .tight
  | narrow _ _ => .tight
  | wide _ _ => .formula
  | binary op _ => op.right

theorem isTight_eq_true_iff (operator : Operator) :
    operator.isTight = true ↔ operator.operand = .tight := by
  cases operator with
  | binary op left => cases op <;> simp [isTight, operand, Connective.right]
  | _ => simp [isTight, operand]

/-- An operator takes the phrase behind it before a connective when the connective is looser than
    the operand that the operator waits for. -/
theorem closedBy_connective (operator : Operator) (op : Connective) :
    operator.closedBy (.connective op) false = true ↔
      op.stratum.level < operator.operand.level := by
  cases operator with
  | binary first left => exact Connective.closedBy_connective first op
  | negation | modal | narrow | wide =>
      cases op <;> simp [closedBy, operand, Connective.stratum, Stratum.level]

@[simp] theorem closedBy_closing (operator : Operator) (isSealed : Bool) :
    operator.closedBy .closing isSealed = true := by
  cases operator <;> rfl

@[simp] theorem closedBy_ending (operator : Operator) (isSealed : Bool) :
    operator.closedBy .ending isSealed = true := by
  cases operator <;> rfl

end Operator

/-- The stratum of the operand that is wanted inside the frames. -/
def hole : List Frame → Stratum
  | .waiting _ operator :: _ => operator.operand
  | _ => .formula

/-- Every operator that waits makes a phrase that the frames around it can take. -/
def Nested : List Frame → Prop
  | [] => True
  | .bracket :: frames => Nested frames
  | .waiting _ operator :: frames =>
    (hole frames).level ≤ operator.stratum.level ∧ Nested frames

theorem refusesNegation_eq_true_iff (frames : List Frame) :
    refusesNegation frames = true ↔ hole frames = .tight := by
  cases frames with
  | nil => simp [refusesNegation, hole]
  | cons frame frames =>
      cases frame with
      | bracket => simp [refusesNegation, hole]
      | waiting token operator => simp [refusesNegation, hole, operator.isTight_eq_true_iff]

end ModalLanguage
