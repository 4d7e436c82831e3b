/-
Module: ModalLanguage.Proofs.RowReading
Purpose: How the connectives between operands group. An operand is what no connective outside can
  take apart: negations, then modal operators and narrow quantifiers, then a text in brackets. A row
  of operands is cut where the loosest connective stands and each part at the next tighter one
  (`Written.split`); parts that are joined by one connective make up a derivation, to the left or to
  the right (`Derives.chain`, `derives_chainImplications`). So parsing groups the row as
  `Row.grouped?` does, and it stops at the second biconditional, where there is one.
Main exports: FrontOperator, Operand, Joint, OperandRow, Derives, Operand.derives, Written,
  Written.split, Written.derives_grouped, Parser.parse_row
-/
import ModalLanguage.Formula.Row
import ModalLanguage.Proofs.Demand
import ModalLanguage.Proofs.Lockstep
import ModalLanguage.Proofs.TreeReading

namespace ModalLanguage

/-! ### Rows of operands -/

/-- An operator in front of an operand: a modal operator, perhaps with an agent, or a quantifier
    without a dot. -/
inductive FrontOperator where
  | modal (modality : Modality) (op : Token) (isOp : op.kind = modality.kind)
  | indexed (modality : Modality) (op : Token) (isOp : op.kind = modality.kind)
      (mark : Token) (isMark : mark.kind = .underscore)
      (name : Token) (isName : name.kind = .letter ∨ name.kind = .agent)
      (agent : Agent) (known : Agent.ofName? name.value = some agent)
  | narrow (quantifier : Quantifier) (op : Token) (isOp : op.kind = quantifier.kind)
      (bound : Token) (isBound : bound.kind = .letter)

namespace FrontOperator

/-- The tokens of an operator. -/
def tokens : FrontOperator → List Token
  | modal _ op _ => [op]
  | indexed _ op _ mark _ name _ _ _ => [op, mark, name]
  | narrow _ op _ bound _ => [op, bound]

/-- The formula that an operator makes of its operand. -/
def apply : FrontOperator → Formula → Formula
  | modal modality _ _, operand => .modal modality none operand
  | indexed modality _ _ _ _ _ _ agent _, operand => .modal modality (some agent) operand
  | narrow quantifier _ _ bound _, operand => .quantified quantifier bound.value operand

end FrontOperator

/-- Negations and other operators in front of a bracket, and the tokens in it, which some text is
    parsed from. -/
structure Operand where
  negations : List Token
  areNegations : ∀ token ∈ negations, token.kind = .negation
  fronts : List FrontOperator
  opening : Token
  isOpening : opening.kind = .opening
  body : List Token
  closing : Token
  isClosing : closing.kind = .closing
  inner : Formula
  parses : ∃ (p : Parser) (text : String), p.parse text = .ok inner ∧
    List.Forall₂ Token.Alike body (tokenize text).tokens

namespace Operand

/-- The tokens of an operand. -/
def tokens (o : Operand) : List Token :=
  o.negations ++ (o.fronts.flatMap FrontOperator.tokens ++
    (o.opening :: (o.body ++ [o.closing])))

/-- The formula of an operand: its operators are applied to the formula in the bracket from the inside
    out. -/
def value (o : Operand) : Formula :=
  o.negations.foldr (fun _ f => .negation f) (o.fronts.foldr FrontOperator.apply o.inner)

end Operand

/-- A connective between two operands. -/
structure Joint where
  op : Connective
  token : Token
  isOp : token.kind = op.kind

/-- Operands with connectives between them. -/
structure OperandRow where
  first : Operand
  rest : List (Joint × Operand)

namespace OperandRow

/-- The tokens of a row. -/
def tokens (row : OperandRow) : List Token :=
  row.first.tokens ++ row.rest.flatMap fun entry => entry.1.token :: entry.2.tokens

/-- The formulas of the operands, with the connectives between them. -/
def values (row : OperandRow) : Row :=
  ⟨row.first.value, row.rest.map fun entry => (entry.1.op, entry.2.value)⟩

end OperandRow

/-- The number of biconditionals between operands. -/
def biconditionals (rest : List (Joint × Operand)) : Nat :=
  rest.countP fun entry => entry.1.op == .biconditional

/-! ### Derivations that nothing behind them can widen -/

/-- A stratum derives tokens as a formula, and no quantifier in the derivation could reach further,
    whatever stands behind. -/
def Derives (s : Stratum) (tokens : List Token) (f : Formula) : Prop :=
  ∃ tree : Tree s, tree.tokens = tokens ∧ tree.formula = f ∧ tree.agentsKnown = true ∧
    ∀ ahead, tree.Widest ahead

namespace Derives

theorem lift {s target : Stratum} {tokens : List Token} {f : Formula} (derives : Derives s tokens f)
    (looser : target.level ≤ s.level) : Derives target tokens f := by
  obtain ⟨tree, tokens_eq, formula_eq, known, widest⟩ := derives
  obtain ⟨whole, alike⟩ := tree.exists_lift target looser
  exact ⟨whole, alike.tokens.trans tokens_eq, alike.formula.trans formula_eq,
    alike.agentsKnown.trans known, fun ahead => (alike.widest ahead).2 (widest ahead)⟩

theorem binary {op : Connective} {token : Token} {front behind : List Token} {left right : Formula}
    (first : Derives op.left front left) (isOp : token.kind = op.kind)
    (second : Derives op.right behind right) :
    Derives op.stratum (front ++ token :: behind) (.binary op left right) := by
  obtain ⟨tree, rfl, rfl, known, widest⟩ := first
  obtain ⟨tree', rfl, rfl, known', widest'⟩ := second
  refine ⟨.binary op tree token isOp tree', Tree.tokens_binary .., Tree.formula_binary .., ?_, ?_⟩
  · rw [Tree.agentsKnown_binary, known, known']
    rfl
  · intro ahead
    exact (Tree.widest_binary ..).2 ⟨widest _, widest' ahead⟩

end Derives

/-! ### Operands -/

/-- What is widest at the end of a text is widest in front of a closing bracket. -/
theorem Tree.widest_closing {s : Stratum} (t : Tree s) (widest : t.Widest .ending) :
    t.Widest (.token .closing) := by
  induction t with
  | whole body ih | ofImplication body ih | ofDisjunction body ih | ofConjunction body ih
  | ofUnary body ih | ofTight body ih => exact ih widest
  | biconditional left op isOp right ihLeft ihRight
  | implication left op isOp right ihLeft ihRight
  | disjunction left op isOp right ihLeft ihRight
  | conjunction left op isOp right ihLeft ihRight => exact ⟨widest.1, ihRight widest.2⟩
  | negation op isOp operand ih | modal modality op isOp operand ih
  | indexed modality op isOp mark isMark name isName operand ih
  | narrow quantifier op isOp bound isBound operand ih => exact ih widest
  | wide quantifier op isOp bound isBound dot isDot body ih =>
      exact ⟨.inr (.inl rfl), ih widest.2⟩
  | predicate | atom | constant => trivial
  | bracketed opening isOpening body closing isClosing ih => exact widest

/-- Tokens that are alike to those of a text are derived as the formula that the text is parsed as. -/
theorem exists_tree_of_alike {p : Parser} {text : String} {f : Formula} {body : List Token}
    (parsed : p.parse text = .ok f)
    (alike : List.Forall₂ Token.Alike body (tokenize text).tokens) :
    ∃ tree : Tree .formula, tree.tokens = body ∧ tree.agentsKnown = true ∧
      tree.Widest .ending ∧ tree.formula = f := by
  let R (t t' : Token) : Prop := t.kind ≠ .agent ∧ t'.Alike t
  have keeps : KeepsNames R := by
    constructor
    · intro t t' related
      exact related.2.1.symm
    · intro t t' related isName
      have isLetter := isName.resolve_right related.1
      exact (related.2.2 (related.2.1.trans isLetter)).symm
  have all : List.Forall₂ R (tokenize text).tokens body := by
    rw [List.forall₂_and_left]
    exact ⟨fun t member => kind_ne_agent_of_mem_tokenize member, alike.flip⟩
  have started : Configuration.start.Agrees R .start := ⟨.nil, .operand⟩
  obtain ⟨-, c, read, finished⟩ := (p.parse_eq_ok_iff text f).1 parsed
  have reads := started.steps keeps p.limit all
  rw [read] at reads
  generalize read' : Configuration.start.steps p.limit body = outcome at reads
  cases reads with
  | @ok _ c' agrees =>
      have finishes := agrees.finish p.limit
      rw [finished] at finishes
      generalize finished' : c'.finish p.limit = outcome' at finishes
      cases finishes with
      | ok same =>
          cases same
          exact (reads_start.steps read').finish finished'

/-- A bracket is derived whatever stands behind it. -/
theorem Operand.derives_bracket (o : Operand) :
    Derives .tight (o.opening :: (o.body ++ [o.closing])) o.inner := by
  obtain ⟨p, text, parsed, alike⟩ := o.parses
  obtain ⟨tree, tokens_eq, known, widest, formula_eq⟩ := exists_tree_of_alike parsed alike
  refine ⟨.bracketed o.opening o.isOpening tree o.closing o.isClosing, ?_, formula_eq, known, ?_⟩
  · rw [← tokens_eq]
    rfl
  · intro ahead
    rw [Tree.Widest, o.isClosing]
    exact tree.widest_closing widest

theorem FrontOperator.derives (front : FrontOperator) {tokens : List Token} {f : Formula}
    (operand : Derives .tight tokens f) : Derives .tight (front.tokens ++ tokens) (front.apply f) := by
  obtain ⟨tree, rfl, rfl, known, widest⟩ := operand
  cases front with
  | modal modality op isOp => exact ⟨.modal modality op isOp tree, rfl, rfl, known, widest⟩
  | indexed modality op isOp mark isMark name isName agent knownAgent =>
      refine ⟨.indexed modality op isOp mark isMark name isName tree, rfl, ?_, ?_, widest⟩
      · rw [Tree.formula, knownAgent]
        rfl
      · rw [Tree.agentsKnown, knownAgent, known]
        rfl
  | narrow quantifier op isOp bound isBound =>
      exact ⟨.narrow quantifier op isOp bound isBound tree, rfl, rfl, known, widest⟩

theorem derives_fronts (fronts : List FrontOperator) {tokens : List Token} {f : Formula}
    (operand : Derives .tight tokens f) :
    Derives .tight (fronts.flatMap FrontOperator.tokens ++ tokens)
      (fronts.foldr FrontOperator.apply f) := by
  induction fronts with
  | nil => exact operand
  | cons front fronts ih =>
      rw [List.flatMap_cons, List.append_assoc]
      exact front.derives ih

theorem derives_negations {negations : List Token}
    (areNegations : ∀ token ∈ negations, token.kind = .negation) {tokens : List Token} {f : Formula}
    (operand : Derives .unary tokens f) :
    Derives .unary (negations ++ tokens) (negations.foldr (fun _ f => .negation f) f) := by
  induction negations with
  | nil => exact operand
  | cons op negations ih =>
      obtain ⟨isOp, areRest⟩ := List.forall_mem_cons.1 areNegations
      obtain ⟨tree, tokens_eq, formula_eq, known, widest⟩ := ih areRest
      refine ⟨.negation op isOp tree, ?_, ?_, known, widest⟩
      · rw [Tree.tokens, tokens_eq]
        rfl
      · rw [Tree.formula, formula_eq]
        rfl

/-- An operand is derived as its value, whatever stands behind it. -/
theorem Operand.derives (o : Operand) : Derives .unary o.tokens o.value := by
  have tight := derives_fronts o.fronts o.derives_bracket
  exact derives_negations o.areNegations (tight.lift (by decide))

/-! ### Cutting a row at one connective -/

/-- A row with its tokens, in which every connective has at least a rank. -/
inductive Written (rank : Nat) : Row → List Token → Prop where
  | single {f : Formula} {tokens : List Token} (operand : Derives .unary tokens f) :
      Written rank ⟨f, []⟩ tokens
  | cons {f : Formula} {tokens more : List Token} {op : Connective} {token : Token} {row : Row}
      (operand : Derives .unary tokens f) (isOp : token.kind = op.kind) (bound : rank ≤ op.rank)
      (rest : Written rank row more) :
      Written rank ⟨f, (op, row.first) :: row.rest⟩ (tokens ++ token :: more)

/-- Items with their tokens, each behind a token of one connective. -/
inductive Joined {α : Type} (op : Connective) (P : α → List Token → Prop) :
    List α → List Token → Prop where
  | nil : Joined op P [] []
  | cons {item : α} {items : List α} {token : Token} {tokens more : List Token}
      (isOp : token.kind = op.kind) (here : P item tokens) (rest : Joined op P items more) :
      Joined op P (item :: items) (token :: tokens ++ more)

theorem Connective.rank_inj {first second : Connective} (same : first.rank = second.rank) :
    first = second := by
  cases first <;> cases second <;> first | rfl | cases same

/-- Cutting a row with one more operand in front: the operand becomes a part, or it goes to the first
    part. -/
theorem Row.split_cons (op joint : Connective) (f : Formula) (row : Row) :
    Row.split op ⟨f, (joint, row.first) :: row.rest⟩ =
      if joint = op then (⟨f, []⟩, (row.split op).1 :: (row.split op).2)
      else (⟨f, (joint, (row.split op).1.first) :: (row.split op).1.rest⟩, (row.split op).2) :=
  rfl

namespace Written

/-- Where every connective of a rank or more is cut out, those that are left have a greater rank. -/
theorem split {op : Connective} {row : Row} {tokens : List Token}
    (written : Written op.rank row tokens) :
    ∃ front more, tokens = front ++ more ∧ Written (op.rank + 1) (row.split op).1 front ∧
      Joined op (Written (op.rank + 1)) (row.split op).2 more := by
  induction written with
  | @single f tokens operand => exact ⟨tokens, [], (List.append_nil _).symm, .single operand, .nil⟩
  | @cons f tokens more joint token row operand isOp bound rest ih =>
      obtain ⟨front, behind, rfl, first, parts⟩ := ih
      rw [Row.split_cons]
      split
      · rename_i isCut
        subst isCut
        exact ⟨tokens, _, rfl, .single operand, .cons isOp first parts⟩
      · rename_i stays
        have tighter : op.rank + 1 ≤ joint.rank :=
          Nat.lt_of_le_of_ne bound fun same => stays (Connective.rank_inj same.symm)
        refine ⟨tokens ++ token :: front, behind, ?_, .cons operand isOp tighter first, parts⟩
        rw [List.append_assoc, List.cons_append]

end Written

/-! ### Grouping what one connective joins -/

/-- What a connective that groups to the left joins is derived as the formulas folded to the left. -/
theorem Derives.chain {α : Type} {op : Connective} (groups : op.left = op.stratum)
    {P : α → List Token → Prop} {value : α → Formula}
    (each : ∀ {item : α} {tokens : List Token}, P item tokens →
      Derives op.right tokens (value item))
    {front more : List Token} {f : Formula} {items : List α}
    (first : Derives op.stratum front f) (joined : Joined op P items more) :
    Derives op.stratum (front ++ more)
      (items.foldl (fun left item => .binary op left (value item)) f) := by
  induction joined generalizing front f with
  | nil =>
      rw [List.append_nil]
      exact first
  | @cons item items token tokens more isOp here rest ih =>
      have left : Derives op.left front f := by
        rw [groups]
        exact first
      have longer := ih (left.binary isOp (each here))
      rw [List.append_assoc] at longer
      exact longer

namespace Written

variable {row : Row} {tokens : List Token}

/-- A row of conjunctions is one operand with others behind it. -/
theorem joined (written : Written Connective.conjunction.rank row tokens) :
    ∃ front more, tokens = front ++ more ∧ Derives .unary front row.first ∧
      Joined .conjunction (fun entry tokens => Derives .unary tokens entry.2) row.rest more := by
  induction written with
  | @single f tokens operand => exact ⟨tokens, [], (List.append_nil _).symm, operand, .nil⟩
  | @cons f tokens more op token row operand isOp bound rest ih =>
      obtain ⟨front, behind, rfl, first, others⟩ := ih
      have isConjunction : op = .conjunction := by
        cases op <;> first | rfl | exact absurd bound (by decide)
      subst isConjunction
      exact ⟨tokens, _, rfl, operand, .cons isOp first others⟩

theorem derives_conjoin (written : Written Connective.conjunction.rank row tokens) :
    Derives .conjunction tokens row.conjoin := by
  obtain ⟨front, more, rfl, first, others⟩ := written.joined
  exact Derives.chain rfl id (first.lift (by decide)) others

theorem derives_disjoin (written : Written Connective.disjunction.rank row tokens) :
    Derives .disjunction tokens row.disjoin := by
  obtain ⟨front, more, rfl, first, others⟩ := written.split
  exact Derives.chain rfl derives_conjoin (first.derives_conjoin.lift (by decide)) others

/-- Implications group to the right. -/
theorem derives_chainImplications {part : Row} {parts : List Row} {front more : List Token}
    (first : Written (Connective.implication.rank + 1) part front)
    (others : Joined .implication (Written (Connective.implication.rank + 1)) parts more) :
    Derives .implication (front ++ more) (Row.chainImplications part parts) := by
  induction others generalizing part front with
  | nil =>
      rw [List.append_nil]
      exact first.derives_disjoin.lift (by decide)
  | @cons next parts token tokens more isOp here rest ih =>
      change Derives Connective.implication.stratum _ _
      exact Derives.binary first.derives_disjoin isOp (ih here)

theorem derives_imply (written : Written Connective.implication.rank row tokens) :
    Derives .implication tokens row.imply := by
  obtain ⟨front, more, rfl, first, others⟩ := written.split
  exact derives_chainImplications first others

/-- A row with one biconditional is derived as one, with no bracket around it. -/
theorem exists_biconditional {left right : Row}
    (written : Written Connective.biconditional.rank row tokens)
    (cut : row.split .biconditional = (left, [right])) :
    ∃ tree : Tree .formula, tree.tokens = tokens ∧
      tree.formula = .binary .biconditional left.imply right.imply ∧ tree.agentsKnown = true ∧
      (∀ ahead, tree.Widest ahead) ∧ tree.isBiconditional = true := by
  obtain ⟨front, more, rfl, first, others⟩ := written.split
  rw [cut] at first others
  cases others with
  | @cons _ _ op behind _ isOp here rest =>
      cases rest
      obtain ⟨tree, rfl, formula_eq, known, widest⟩ := first.derives_imply
      obtain ⟨tree', rfl, formula_eq', known', widest'⟩ := here.derives_imply
      refine ⟨.whole (.biconditional tree op isOp tree'), ?_, ?_, ?_, ?_, rfl⟩
      · rw [List.append_nil]
        rfl
      · simp only [Tree.formula, formula_eq, formula_eq']
      · simp only [Tree.agentsKnown, known, known', Bool.and_self]
      · intro ahead
        exact ⟨widest _, widest' ahead⟩

/-- A row that can be grouped is derived as what it is grouped to. -/
theorem derives_grouped {f : Formula} (written : Written Connective.biconditional.rank row tokens)
    (grouped : row.grouped? = some f) : Derives .formula tokens f := by
  unfold Row.grouped? at grouped
  split at grouped
  · rename_i part cut
    cases grouped
    obtain ⟨front, more, rfl, first, others⟩ := written.split
    rw [cut] at first others
    cases others
    rw [List.append_nil]
    exact first.derives_imply.lift (by decide)
  · rename_i left right cut
    cases grouped
    obtain ⟨tree, tokens_eq, formula_eq, known, widest, -⟩ := written.exists_biconditional cut
    exact ⟨tree, tokens_eq, formula_eq, known, widest⟩
  · cases grouped

end Written

/-! ### How many biconditionals there are -/

/-- A row is cut into one part more than there are places to cut it. -/
theorem length_splitFrom (op : Connective) (f : Formula) (rest : List (Connective × Formula)) :
    (Row.splitFrom op f rest).2.length = rest.countP fun entry => entry.1 == op := by
  induction rest generalizing f with
  | nil => rfl
  | cons entry rest ih =>
      obtain ⟨joint, next⟩ := entry
      have others := ih next
      rw [List.countP_cons, ← others, Row.splitFrom]
      by_cases isCut : joint = op
      · simp [isCut]
      · simp [isCut]

theorem OperandRow.length_split (row : OperandRow) :
    (row.values.split .biconditional).2.length = biconditionals row.rest := by
  rw [Row.split, length_splitFrom, values, List.countP_map]
  rfl

/-- A row with at most one biconditional can be grouped. -/
theorem OperandRow.exists_grouped (row : OperandRow) (single : biconditionals row.rest ≤ 1) :
    ∃ f, row.values.grouped? = some f := by
  have parts := row.length_split
  unfold Row.grouped?
  cases cut : row.values.split .biconditional with
  | mk part others =>
      rw [cut] at parts
      cases others with
      | nil => exact ⟨_, rfl⟩
      | cons next others =>
          cases others with
          | nil => exact ⟨_, rfl⟩
          | cons =>
              simp only [List.length_cons] at parts
              omega

/-- A row with just one is cut in two. -/
theorem OperandRow.exists_split (row : OperandRow) (single : biconditionals row.rest = 1) :
    ∃ left right, row.values.split .biconditional = (left, [right]) := by
  have parts := row.length_split
  cases cut : row.values.split .biconditional with
  | mk part others =>
      rw [cut, single] at parts
      obtain ⟨right, rfl⟩ := List.length_eq_one_iff.1 parts
      exact ⟨part, right, rfl⟩

/-- When more than `n` elements of a list have a property, one of them has just `n` of them in
    front. -/
theorem exists_append_of_lt_countP {α : Type} (p : α → Bool) {n : Nat} {items : List α}
    (more : n < items.countP p) :
    ∃ before item after, items = before ++ item :: after ∧ p item = true ∧
      before.countP p = n := by
  induction items generalizing n with
  | nil => cases more
  | cons first items ih =>
      rw [List.countP_cons] at more
      cases holds : p first with
      | false =>
          rw [holds, if_neg Bool.false_ne_true, Nat.add_zero] at more
          obtain ⟨before, item, after, rfl, isItem, count⟩ := ih more
          refine ⟨first :: before, item, after, rfl, isItem, ?_⟩
          rw [List.countP_cons, holds, if_neg Bool.false_ne_true, count, Nat.add_zero]
      | true =>
          cases n with
          | zero => exact ⟨[], first, items, rfl, holds, rfl⟩
          | succ n =>
              rw [holds, if_pos rfl] at more
              obtain ⟨before, item, after, rfl, isItem, count⟩ := ih (Nat.lt_of_succ_lt_succ more)
              refine ⟨first :: before, item, after, rfl, isItem, ?_⟩
              rw [List.countP_cons, holds, if_pos rfl, count]

/-! ### Reading a row -/

/-- A row is made of its operands and connectives. -/
theorem OperandRow.written (row : OperandRow) :
    Written Connective.biconditional.rank row.values row.tokens := by
  obtain ⟨first, rest⟩ := row
  induction rest generalizing first with
  | nil =>
      rw [tokens, List.flatMap_nil, List.append_nil]
      exact .single first.derives
  | cons entry rest ih =>
      exact .cons first.derives entry.1.isOp (Nat.zero_le _) (ih entry.2)

/-- Behind a biconditional without a bracket around it no other one can be read. -/
theorem Tree.stops_at_biconditional {tree : Tree .formula} {limit : Limit} {token : Token}
    (known : tree.agentsKnown = true) (widest : tree.Widest (.token .biconditional))
    (both : tree.isBiconditional = true) (allowed : tree.formula.nesting ≤ limit.nesting)
    (isOp : token.kind = .biconditional) :
    ∃ c, Configuration.start.steps limit tree.tokens = .ok c ∧
      c.step limit token = .error (.unexpected (some token) c.expected) := by
  have placed : tree.Placed [] (.connective .biconditional) :=
    ⟨Nat.le_refl _, known, .inr ⟨rfl, both⟩, widest⟩
  have settled : tree.Settles limit [] (.connective .biconditional) := tree.settles placed
  have passes := (tree.checkOperators_eq_ok_iff limit).2 allowed
  unfold Settles ModalLanguage.Settles at settled
  rw [passes, ok_bind, both] at settled
  change (Configuration.start.steps limit tree.tokens >>=
    Configuration.settle limit (.connective .biconditional)) =
      .ok ⟨[], tree.formula, true⟩ at settled
  cases read : Configuration.start.steps limit tree.tokens with
  | error failure =>
      rw [read] at settled
      cases settled
  | ok c =>
      rw [read, ok_bind] at settled
      have complete : c.phrase?.isSome = true := by
        cases missing : c.phrase? with
        | some phrase => rfl
        | none =>
            rw [Configuration.settle, missing] at settled
            cases settled
      have follows : (Lookahead.token token.kind).follower? =
          some (.connective .biconditional) := by
        rw [isOp]
        rfl
      refine ⟨c, rfl, ?_⟩
      rw [Configuration.step_eq_settle follows complete, settled]
      rfl

namespace Parser

/-- A derivation that nothing can widen is what its tokens are parsed as, within the limit. -/
theorem parse_of_derives {p : Parser} {text : String} {f : Formula}
    (noFault : (tokenize text).fault = none)
    (derives : Derives .formula (tokenize text).tokens f) (allowed : f.nesting ≤ p.limit.nesting) :
    p.parse text = .ok f := by
  obtain ⟨tree, tokens_eq, rfl, known, widest⟩ := derives
  rw [parse_of_widest noFault tokens_eq.symm known (widest _),
    (tree.checkOperators_eq_ok_iff p.limit).2 allowed]

/-- How connectives group. A row of operands with at most one biconditional is parsed as the formula
    that it is grouped to: split at the biconditional, then at the implications, which group to the
    right, then at the disjunctions and the conjunctions, which group to the left. A row with more of
    them is a syntax error at the second one. Both hold when the limit allows what is built: the whole
    formula, or the part of the row in front of the second biconditional. -/
theorem parse_row (p : Parser) (text : String) (row : OperandRow)
    (tokens_eq : tokenize text = ⟨row.tokens, none⟩) :
    (biconditionals row.rest ≤ 1 →
      ∃ f, row.values.grouped? = some f ∧
        (f.nesting ≤ p.limit.nesting → p.parse text = .ok f)) ∧
    (2 ≤ biconditionals row.rest →
      ∃ before joint operand after f, row.rest = before ++ (joint, operand) :: after ∧
        joint.op = .biconditional ∧ biconditionals before = 1 ∧
        (OperandRow.mk row.first before).values.grouped? = some f ∧
        (f.nesting ≤ p.limit.nesting →
          ∃ e, p.parse text = .error (.parse e) ∧ e.cause = .unexpected ∧
            e.StandsAt joint.token)) := by
  constructor
  · intro single
    obtain ⟨f, grouped⟩ := row.exists_grouped single
    refine ⟨f, grouped, ?_⟩
    intro allowed
    have derives := row.written.derives_grouped grouped
    have noFault : (tokenize text).fault = none := by rw [tokens_eq]
    refine parse_of_derives noFault ?_ allowed
    rw [tokens_eq]
    exact derives
  · intro several
    obtain ⟨before, ⟨joint, operand⟩, after, rest_eq, isOp, single⟩ :=
      exists_append_of_lt_countP _ several
    have isBiconditional : joint.op = .biconditional := eq_of_beq isOp
    -- The row in front of the second biconditional has one, and is read as it stands.
    let front : OperandRow := ⟨row.first, before⟩
    obtain ⟨left, right, cut⟩ := front.exists_split single
    have grouped : front.values.grouped? = some (.binary .biconditional left.imply right.imply) := by
      rw [Row.grouped?, cut]
    obtain ⟨tree, tree_tokens, formula_eq, known, widest, both⟩ :=
      front.written.exists_biconditional cut
    refine ⟨before, joint, operand, after, _, rest_eq, isBiconditional, single, grouped, ?_⟩
    intro allowed
    rw [← formula_eq] at allowed
    have kind : joint.token.kind = .biconditional := by
      rw [joint.isOp, isBiconditional]
      rfl
    obtain ⟨c, read, stops⟩ := tree.stops_at_biconditional known (widest _) both allowed kind
    have split : (tokenize text).tokens = tree.tokens ++ joint.token ::
        (operand.tokens ++ after.flatMap fun entry => entry.1.token :: entry.2.tokens) := by
      rw [tokens_eq, tree_tokens, OperandRow.tokens, OperandRow.tokens, rest_eq,
        List.flatMap_append, List.flatMap_cons, List.append_assoc, List.cons_append]
    exact ⟨_, parse_of_stops split read stops, rfl, rfl, rfl⟩

theorem parse_letter : standard.parse "p" = .ok (.atom "p") := by
  have read : (standard.run "p").outcome = .ok (.atom "p") := by decide +kernel
  rw [parse, read]
  rfl

end Parser

/-- The smallest operand: a letter in brackets, at an offset of a text. -/
def Operand.letter (offset : Nat) : Operand where
  negations := []
  areNegations := nofun
  fronts := []
  opening := ⟨.opening, "(", offset⟩
  isOpening := rfl
  body := [⟨.letter, "p", offset + 1⟩]
  closing := ⟨.closing, ")", offset + 2⟩
  isClosing := rfl
  inner := .atom "p"
  parses := by
    refine ⟨.standard, "p", Parser.parse_letter, ?_⟩
    have tokens_eq : (tokenize "p").tokens = [⟨.letter, "p", 0⟩] := by decide +kernel
    rw [tokens_eq]
    exact .cons ⟨rfl, fun _ => rfl⟩ .nil

namespace Parser

/-- An implication over a negation and a conjunction, and a row that stops at its second
    biconditional. -/
theorem parse_row_letters :
    standard.parse "~[]_a(p)->(p)&(p)" =
        .ok (.binary .implication (.negation (.modal .box (some .a) (.atom "p")))
          (.binary .conjunction (.atom "p") (.atom "p"))) ∧
      ∃ e, standard.parse "(p)<->(p)<->(p)" = .error (.parse e) ∧ e.cause = .unexpected ∧
        e.offset = 9 := by
  let modal : FrontOperator := .indexed .box ⟨.box, "[]", 1⟩ rfl ⟨.underscore, "_", 3⟩ rfl
    ⟨.letter, "a", 4⟩ (.inl rfl) .a rfl
  let first : Operand :=
    { Operand.letter 5 with
      negations := [⟨.negation, "~", 0⟩]
      areNegations := by simp
      fronts := [modal] }
  let mixed : OperandRow :=
    ⟨first, [(⟨.implication, ⟨.implication, "->", 8⟩, rfl⟩, .letter 10),
      (⟨.conjunction, ⟨.conjunction, "&", 13⟩, rfl⟩, .letter 14)]⟩
  let twice : OperandRow :=
    ⟨.letter 0, [(⟨.biconditional, ⟨.biconditional, "<->", 3⟩, rfl⟩, .letter 6),
      (⟨.biconditional, ⟨.biconditional, "<->", 9⟩, rfl⟩, .letter 12)]⟩
  have mixed_tokens : tokenize "~[]_a(p)->(p)&(p)" = ⟨mixed.tokens, none⟩ := by decide +kernel
  have twice_tokens : tokenize "(p)<->(p)<->(p)" = ⟨twice.tokens, none⟩ := by decide +kernel
  constructor
  · obtain ⟨f, grouped, parsed⟩ := (parse_row standard _ mixed mixed_tokens).1 (by decide)
    cases grouped
    exact parsed (by decide)
  · obtain ⟨before, joint, operand, after, f, rest_eq, -, single, grouped, stops⟩ :=
      (parse_row standard _ twice twice_tokens).2 (by decide)
    cases before with
    | nil => cases single
    | cons entry before =>
        cases before with
        | nil =>
            cases rest_eq
            cases grouped
            obtain ⟨e, failed, unexpected, stands⟩ := stops (by decide)
            exact ⟨e, failed, unexpected, stands.1⟩
        | cons entry' before =>
            have lengths := congrArg List.length rest_eq
            simp [twice] at lengths

end Parser

end ModalLanguage
