/-
Module: ModalLanguage.Proofs.NestingBound
Purpose: The bound on nesting is exact, and where it is exceeded the error says at which operator.
  The formulas that the operators make are held against the limit each behind those of its operands,
  the left operand first. So what a text is parsed as under one limit tells the outcome under every
  other one: the same formula as long as its nesting is allowed, and otherwise an error at the first
  operator in that order whose formula is not. The operands of that operator are all allowed, so its
  formula is nested by just one level too many.
Main exports: Formula.operatorNodes, Tree.map_snd_operators, checkOperators_eq_find?,
  Tree.nesting_eq_of_find?_operators, Parser.nesting_bound_located
-/
import ModalLanguage.Proofs.FarthestScope

namespace ModalLanguage

/-! ### The operators of a formula -/

namespace Formula

/-- The nodes of a formula that have operands, each behind those of its operands and the left
    operand first. -/
def operatorNodes : Formula → List Formula
  | atom _ => []
  | constant _ => []
  | predicate _ _ _ => []
  | foreign _ _ => []
  | negation operand => operand.operatorNodes ++ [negation operand]
  | modal op agent operand => operand.operatorNodes ++ [modal op agent operand]
  | quantified op bound operand => operand.operatorNodes ++ [quantified op bound operand]
  | binary op left right => left.operatorNodes ++ right.operatorNodes ++ [binary op left right]

end Formula

/-- The operators of a derivation make the nodes of its formula, in the same order. -/
theorem Tree.map_snd_operators {s : Stratum} (t : Tree s) :
    t.operators.map Prod.snd = t.formula.operatorNodes := by
  induction t with
  | whole body ih | ofImplication body ih | ofDisjunction body ih | ofConjunction body ih
  | ofUnary body ih | ofTight body ih => exact ih
  | biconditional left op isOp right ihLeft ihRight
  | implication left op isOp right ihLeft ihRight
  | disjunction left op isOp right ihLeft ihRight
  | conjunction left op isOp right ihLeft ihRight =>
      simp [operators, formula, Formula.operatorNodes, ihLeft, ihRight]
  | negation op isOp operand ih | modal modality op isOp operand ih
  | indexed modality op isOp mark isMark name isName operand ih
  | wide quantifier op isOp bound isBound dot isDot operand ih
  | narrow quantifier op isOp bound isBound operand ih =>
      simp [operators, formula, Formula.operatorNodes, ih]
  | predicate | atom | constant => rfl
  | bracketed opening isOpening body closing isClosing ih => exact ih

/-! ### The first operator beyond a bound -/

/-- Whether an operator makes a formula that is nested more deeply than a bound. -/
def isBeyond (bound : Nat) (node : Token × Formula) : Bool := bound < node.2.nesting

theorem isBeyond_eq_false_iff {bound : Nat} {node : Token × Formula} :
    isBeyond bound node = false ↔ node.2.nesting ≤ bound := by
  simp [isBeyond]

/-- Holding operators against a limit looks for the first one beyond it. -/
theorem checkOperators_eq_find? (limit : Limit) (nodes : List (Token × Formula)) :
    checkOperators limit nodes =
      match nodes.find? (isBeyond limit.nesting) with
      | none => .ok ()
      | some node => .error (.tooDeep node.1) := by
  induction nodes with
  | nil => rfl
  | cons node rest ih =>
      obtain ⟨token, f⟩ := node
      rw [checkOperators, List.find?_cons]
      by_cases allowed : f.nesting ≤ limit.nesting
      · rw [isBeyond_eq_false_iff.2 allowed, Limit.allows, decide_eq_true allowed, if_pos rfl]
        exact ih
      · have beyond : isBeyond limit.nesting (token, f) = true :=
          decide_eq_true (Nat.lt_of_not_le allowed)
        rw [beyond, Limit.allows, decide_eq_false allowed]
        rfl

/-- Nothing in front of the first operator beyond a bound is beyond it. When the operator is the
    last one, it stands behind all its operands and cannot be far beyond. -/
theorem nesting_eq_of_find?_concat {bound : Nat} {nodes : List (Token × Formula)} {token : Token}
    {f : Formula} {node : Token × Formula}
    (found : (nodes ++ [(token, f)]).find? (isBeyond bound) = some node)
    (inside : nodes.find? (isBeyond bound) = some node → node.2.nesting = bound + 1)
    (made : (∀ node ∈ nodes, node.2.nesting ≤ bound) → f.nesting ≤ bound + 1) :
    node.2.nesting = bound + 1 := by
  rw [List.find?_append, Option.or_eq_some_iff] at found
  rcases found with found | ⟨noneInside, found⟩
  · exact inside found
  · have within : ∀ node ∈ nodes, node.2.nesting ≤ bound := by
      intro node member
      rw [List.find?_eq_none] at noneInside
      exact isBeyond_eq_false_iff.1 (Bool.eq_false_iff.2 (noneInside node member))
    have beyond : isBeyond bound node = true := List.find?_some found
    obtain rfl : node = (token, f) := List.mem_singleton.1 (List.mem_of_find?_eq_some found)
    exact Nat.le_antisymm (made within) (of_decide_eq_true beyond)

namespace Tree

section Beyond

variable {bound : Nat} {node : Token × Formula} (positive : 0 < bound)

include positive

/-- The first operator beyond a bound, where the last one has one operand. -/
theorem nesting_eq_of_find?_unary {s : Stratum} {operand : Tree s} {token : Token} {f : Formula}
    (found : (operand.operators ++ [(token, f)]).find? (isBeyond bound) = some node)
    (inside : operand.operators.find? (isBeyond bound) = some node → node.2.nesting = bound + 1)
    (made : f.nesting = operand.formula.nesting + 1) : node.2.nesting = bound + 1 := by
  refine nesting_eq_of_find?_concat found inside ?_
  intro within
  rw [made]
  exact Nat.succ_le_succ (operand.nesting_le_of_operators positive within)

/-- The first operator beyond a bound, where the last one is a connective. -/
theorem nesting_eq_of_find?_binary {s s' : Stratum} {left : Tree s} {right : Tree s'}
    {token : Token} {op : Connective}
    (found : (left.operators ++ right.operators ++
      [(token, Formula.binary op left.formula right.formula)]).find? (isBeyond bound) = some node)
    (inLeft : left.operators.find? (isBeyond bound) = some node → node.2.nesting = bound + 1)
    (inRight : right.operators.find? (isBeyond bound) = some node → node.2.nesting = bound + 1) :
    node.2.nesting = bound + 1 := by
  refine nesting_eq_of_find?_concat found ?_ ?_
  · intro found
    rw [List.find?_append, Option.or_eq_some_iff] at found
    rcases found with found | ⟨-, found⟩
    · exact inLeft found
    · exact inRight found
  · intro within
    rw [List.forall_mem_append] at within
    exact Formula.nesting_binary_le (left.nesting_le_of_operators positive within.1)
      (right.nesting_le_of_operators positive within.2)

/-- The first operator whose formula is beyond a bound is so by one level. -/
theorem nesting_eq_of_find?_operators {s : Stratum} (t : Tree s)
    (found : t.operators.find? (isBeyond bound) = some node) : node.2.nesting = bound + 1 := by
  induction t with
  | whole body ih | ofImplication body ih | ofDisjunction body ih | ofConjunction body ih
  | ofUnary body ih | ofTight body ih => exact ih found
  | biconditional left op isOp right ihLeft ihRight
  | implication left op isOp right ihLeft ihRight
  | disjunction left op isOp right ihLeft ihRight
  | conjunction left op isOp right ihLeft ihRight =>
      exact nesting_eq_of_find?_binary positive found ihLeft ihRight
  | negation op isOp operand ih | modal modality op isOp operand ih
  | indexed modality op isOp mark isMark name isName operand ih
  | wide quantifier op isOp bound isBound dot isDot operand ih
  | narrow quantifier op isOp bound isBound operand ih =>
      exact nesting_eq_of_find?_unary positive found ih rfl
  | predicate | atom | constant => cases found
  | bracketed opening isOpening body closing isClosing ih => exact ih found

end Beyond

end Tree

/-! ### Parsing under another limit -/

namespace Parser

/-- The bound on nesting is exact and located. A text that is parsed as a formula under one limit
    has a derivation whose operators make the nodes of the formula, operands before their operator;
    and under every limit the same formula is returned if its nesting is within the limit, and
    otherwise the error stands at the first operator whose formula exceeds the limit, which it does
    by one level. -/
theorem nesting_bound_located (q : Parser) (text : String) (f : Formula)
    (parsed : q.parse text = .ok f) :
    ∃ tree : Tree .formula, tree.tokens = (tokenize text).tokens ∧ tree.agentsKnown = true ∧
      tree.Farthest ∧ tree.formula = f ∧ tree.operators.map Prod.snd = f.operatorNodes ∧
      ∀ p : Parser,
        (f.nesting ≤ p.limit.nesting → p.parse text = .ok f) ∧
        (p.limit.nesting < f.nesting →
          ∃ token node,
            tree.operators.find? (fun operator => p.limit.nesting < operator.2.nesting) =
                some (token, node) ∧
              node.nesting = p.limit.nesting + 1 ∧
              p.parse text = .error (.parse
                (.inText text (.tooDeep p.limit) token.offset [] (some token.value)))) := by
  obtain ⟨tree, tokens_eq, known, widest, rfl⟩ := exists_widest_tree parsed
  have noFault := ((q.parse_eq_ok_iff text tree.formula).1 parsed).1
  refine ⟨tree, tokens_eq, known, Tree.farthest_of_widest widest, rfl, tree.map_snd_operators, ?_⟩
  intro p
  have outcome := parse_of_widest (p := p) noFault tokens_eq.symm known widest
  have passes := tree.checkOperators_eq_ok_iff p.limit
  constructor
  · intro within
    rw [outcome, passes.2 within]
  · intro exceeds
    rw [checkOperators_eq_find?] at outcome passes
    cases found : tree.operators.find? (isBeyond p.limit.nesting) with
    | none =>
        rw [found] at passes
        exact absurd (passes.1 rfl) (Nat.not_le.2 exceeds)
    | some operator =>
        rw [found] at outcome
        exact ⟨operator.1, operator.2, found,
          tree.nesting_eq_of_find?_operators p.limit.positive found, outcome⟩

/-- An operator inside another one is the first to exceed the limit: those in front of it and behind
    it, which are its operands, are still allowed. -/
theorem nesting_bound_inner_operator :
    ∃ f, standard.parse "~p & (q -> [] r) | s" = .ok f ∧
      ∃ (token : Token) (node : Formula), token.offset = 3 ∧ node.nesting = 4 ∧
        (⟨⟨3, by decide⟩⟩ : Parser).parse "~p & (q -> [] r) | s" = .error (.parse
          (.inText "~p & (q -> [] r) | s" (.tooDeep ⟨3, by decide⟩) token.offset []
            (some token.value))) := by
  have parsed : standard.parse "~p & (q -> [] r) | s" =
      .ok (.binary .disjunction (.binary .conjunction (.negation (.atom "p"))
        (.binary .implication (.atom "q") (.modal .box none (.atom "r")))) (.atom "s")) := by
    decide +kernel
  have stopped : ((⟨⟨3, by decide⟩⟩ : Parser).run "~p & (q -> [] r) | s").outcome =
      .error (.failure (.tooDeep ⟨.conjunction, "&", 3⟩)) := by
    decide +kernel
  obtain ⟨tree, -, -, -, -, -, outcome⟩ := nesting_bound_located standard _ _ parsed
  obtain ⟨token, node, -, nesting_eq, failed⟩ :=
    (outcome ⟨⟨3, by decide⟩⟩).2 (by decide)
  have offset_eq : token.offset = 3 := by
    have same := failed
    rw [parse, stopped] at same
    exact (congrArg ParseError.offset (Error.parse.inj (Except.error.inj same))).symm
  exact ⟨_, parsed, token, node, offset_eq, nesting_eq, failed⟩

end Parser

end ModalLanguage
