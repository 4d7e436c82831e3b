/-
Module: ModalLanguage.Proofs.TreeReading
Purpose: Reading the tokens of a given derivation. When no quantifier with a dot in it could reach
  further, the reading builds just the formula of the derivation, wherever it begins and whatever
  follows; and it holds the formulas of the operators against the limit one after another, each
  behind those of its operands, and fails at the first that is too deep. So two such derivations of
  the same tokens have the same formula, and the outcome under every limit is known from one tree.
Main exports: checkOperators, Tree.settles, Tree.steps_finish, Tree.formula_eq_of_widest,
  Tree.checkOperators_eq_ok_iff, Parser.parse_of_widest
-/
import ModalLanguage.Proofs.Derivation
import ModalLanguage.Proofs.Nesting

namespace ModalLanguage

/-! ### The operators against the limit -/

/-- Hold the formulas of operators against the limit, in order. -/
def checkOperators (limit : Limit) : List (Token × Formula) → Except Failure Unit
  | [] => .ok ()
  | (token, f) :: rest =>
    if limit.allows f then checkOperators limit rest else .error (.tooDeep token)

theorem checkOperators_append (limit : Limit) (first second : List (Token × Formula)) :
    checkOperators limit (first ++ second) =
      checkOperators limit first >>= fun _ => checkOperators limit second := by
  induction first with
  | nil => rfl
  | cons node rest ih =>
      obtain ⟨token, f⟩ := node
      rw [List.cons_append, checkOperators, checkOperators, ih]
      split <;> rfl

theorem checkOperators_error {limit : Limit} {nodes : List (Token × Formula)} {failure : Failure}
    (failed : checkOperators limit nodes = .error failure) :
    ∃ operator, failure = .tooDeep operator := by
  fun_induction checkOperators limit nodes with
  | case1 => cases failed
  | case2 token f rest allowed ih => exact ih failed
  | case3 token f rest tooDeep =>
      cases failed
      exact ⟨token, rfl⟩

theorem checkOperators_eq_ok_iff (limit : Limit) (nodes : List (Token × Formula)) :
    checkOperators limit nodes = .ok () ↔ ∀ node ∈ nodes, node.2.nesting ≤ limit.nesting := by
  induction nodes with
  | nil => simp [checkOperators]
  | cons node rest ih =>
      obtain ⟨token, f⟩ := node
      rw [checkOperators, List.forall_mem_cons, ← ih, Limit.allows]
      by_cases allowed : f.nesting ≤ limit.nesting <;> simp [allowed]

/-- An operator that takes the phrase behind it is held against the limit and then part of the
    phrase. -/
theorem closeFrames_closes {limit : Limit} {next : Follower} {token : Token} {operator : Operator}
    {frames : List Frame} {f : Formula} {isSealed : Bool}
    (closes : operator.closedBy next isSealed = true) :
    closeFrames limit next (.waiting token operator :: frames) f isSealed =
      checkOperators limit [(token, operator.apply f)] >>= fun _ =>
        closeFrames limit next frames (operator.apply f) operator.seals := by
  rw [closeFrames, if_pos closes, checkOperators]
  split <;> rfl

/-! ### A token behind a phrase -/

/-- A token that can follow a phrase completes what it completes and takes its place. -/
theorem Configuration.step_eq_settle {limit : Limit} {c : Configuration} {token : Token}
    {next : Follower} (follows : (Lookahead.token token.kind).follower? = some next)
    (complete : c.phrase?.isSome = true) :
    c.step limit token =
      c.settle limit next >>= fun phrase => c.orRefuse token (takeFollower token next phrase) := by
  have noOpening : token.kind ≠ .opening := by
    intro isOpening
    rw [isOpening] at follows
    cases follows
  have behind (phrase : Formula) : c.stepPhrase limit phrase token =
      closeFrames limit next c.frames phrase false >>= fun phrase =>
        c.orRefuse token (takeFollower token next phrase) := by
    simp only [stepPhrase, follows]
    cases closeFrames limit next c.frames phrase false <;> rfl
  obtain ⟨frames, focus⟩ := c
  cases focus with
  | name name => exact (if_neg noOpening).trans (behind (.atom name))
  | complete phrase => exact behind phrase
  | _ => cases complete

/-- If the tokens up to a follower leave one phrase, once the operators in them are checked, then
    the follower takes its place behind it. -/
theorem steps_follower {limit : Limit} {start c : Configuration} {tokens : List Token}
    {token : Token} {next : Follower} {nodes : List (Token × Formula)} {phrase : Phrase}
    (settled : (start.steps limit tokens >>= Configuration.settle limit next) =
      (checkOperators limit nodes >>= fun _ => .ok phrase))
    (follows : (Lookahead.token token.kind).follower? = some next)
    (taken : takeFollower token next phrase = some c) :
    start.steps limit (tokens ++ [token]) = checkOperators limit nodes >>= fun _ => .ok c := by
  rw [Configuration.steps_append]
  cases read : start.steps limit tokens with
  | error failure =>
      rw [read] at settled
      cases checked : checkOperators limit nodes with
      | error failure' =>
          rw [checked] at settled
          cases settled
          rfl
      | ok passed =>
          rw [checked] at settled
          cases settled
  | ok last =>
      rw [read, ok_bind] at settled
      have complete : last.phrase?.isSome = true := by
        cases missing : last.phrase? with
        | some phrase => rfl
        | none =>
            rw [Configuration.settle, missing] at settled
            cases checked : checkOperators limit nodes with
            | error failure =>
                obtain ⟨operator, rfl⟩ := checkOperators_error checked
                rw [checked] at settled
                cases settled
            | ok passed =>
                rw [checked] at settled
                cases settled
      rw [ok_bind, Configuration.steps_cons, Configuration.step_eq_settle follows complete, settled]
      cases checkOperators limit nodes with
      | error failure => rfl
      | ok passed => simp [taken, Configuration.orRefuse]

/-! ### Operands of modal operators and quantifiers -/

/-- Behind a modal operator, an agent or the name of a quantifier the operand is read as inside the
    operator's frame. -/
theorem steps_tight {limit : Limit} {frames : List Frame} {focus : Focus} {frame : Frame}
    (t : Tree .tight)
    (pushed : ∀ token : Token, token.kind.beginsTight = true →
      (⟨frames, focus⟩ : Configuration).step limit token =
        (⟨frames, focus⟩ : Configuration).orRefuse token (beginOperand (frame :: frames) token)) :
    (⟨frames, focus⟩ : Configuration).steps limit t.tokens =
      (⟨frame :: frames, .operand⟩ : Configuration).steps limit t.tokens := by
  obtain ⟨token, rest, tokens_eq, begins⟩ := t.exists_tokens_eq_cons
  have begun : (beginOperand (frame :: frames) token).isSome = true := by
    rw [isSome_beginOperand, begins]
    rfl
  obtain ⟨next, begun⟩ := Option.isSome_iff_exists.1 begun
  rw [tokens_eq, Configuration.steps_cons, Configuration.steps_cons, pushed token begins, begun]
  simp only [Configuration.step, begun]
  rfl

/-- The arguments behind the first one are kept last first. -/
theorem steps_pairTokens {limit : Limit} {frames : List Frame} {predicate first : String}
    {rest : List String} {pairs : List (Token × Token)} (arePairs : ArePairs pairs) :
    (⟨frames, .argument predicate first rest⟩ : Configuration).steps limit (pairTokens pairs) =
      .ok ⟨frames, .argument predicate first
        ((pairs.map fun pair => pair.2.value).reverse ++ rest)⟩ := by
  induction pairs generalizing rest with
  | nil => rfl
  | cons pair pairs ih =>
      obtain ⟨isPair, areRest⟩ := List.forall_mem_cons.1 arePairs
      have more := @ih (pair.2.value :: rest) areRest
      simp only [pairTokens, List.flatMap_cons, List.cons_append, List.nil_append,
        Configuration.steps_cons, Configuration.step, if_pos isPair.1, if_pos isPair.2, ok_bind]
      simpa [pairTokens] using more

/-! ### Entering an operator -/

section Entering

variable {limit : Limit} {frames : List Frame} {op : Token}

theorem steps_negation (isOp : op.kind = .negation)
    (fits : (hole frames).level ≤ Stratum.unary.level) (tokens : List Token) :
    (⟨frames, .operand⟩ : Configuration).steps limit (op :: tokens) =
      (⟨.waiting op .negation :: frames, .operand⟩ : Configuration).steps limit tokens := by
  have accepts : ¬ refusesNegation frames = true := by
    rw [refusesNegation_eq_true_iff]
    intro tight
    rw [tight] at fits
    exact absurd fits (by decide)
  have begun : beginOperand frames op = some ⟨.waiting op .negation :: frames, .operand⟩ := by
    simp [beginOperand, isOp, accepts]
  rw [Configuration.steps_cons, Configuration.step, begun]
  rfl

theorem steps_modal {modality : Modality} (isOp : op.kind = modality.kind)
    (operand : Tree .tight) :
    (⟨frames, .operand⟩ : Configuration).steps limit (op :: operand.tokens) =
      (⟨.waiting op (.modal modality none) :: frames, .operand⟩ : Configuration).steps limit
        operand.tokens := by
  rw [Configuration.steps_cons, Configuration.step, beginOperand_modality frames isOp]
  refine steps_tight operand ?_
  intro token begins
  exact if_neg (Kind.ne_underscore_of_beginsTight begins)

theorem steps_indexed {modality : Modality} {mark name : Token} {agent : Agent}
    (isOp : op.kind = modality.kind) (isMark : mark.kind = .underscore)
    (isName : name.kind = .letter ∨ name.kind = .agent)
    (found : Agent.ofName? name.value = some agent) (operand : Tree .tight) :
    (⟨frames, .operand⟩ : Configuration).steps limit (op :: mark :: name :: operand.tokens) =
      (⟨.waiting op (.modal modality (some agent)) :: frames, .operand⟩ : Configuration).steps
        limit operand.tokens := by
  have begun := beginOperand_modality frames isOp
  simp only [Configuration.steps_cons, Configuration.step, begun, if_pos isMark, if_pos isName,
    Configuration.orRefuse, ok_bind]
  refine steps_tight operand ?_
  intro token begins
  simp only [Configuration.step, begins, if_true, found]

theorem steps_wide {quantifier : Quantifier} {bound dot : Token}
    (isOp : op.kind = quantifier.kind) (isBound : bound.kind = .letter)
    (isDot : dot.kind = .dot) (tokens : List Token) :
    (⟨frames, .operand⟩ : Configuration).steps limit (op :: bound :: dot :: tokens) =
      (⟨.waiting op (.wide quantifier bound.value) :: frames, .operand⟩ : Configuration).steps
        limit tokens := by
  have begun := beginOperand_quantifier frames isOp
  simp only [Configuration.steps_cons, Configuration.step, begun, if_pos isBound, if_pos isDot,
    Configuration.orRefuse, ok_bind]

theorem steps_narrow {quantifier : Quantifier} {bound : Token}
    (isOp : op.kind = quantifier.kind) (isBound : bound.kind = .letter)
    (operand : Tree .tight) :
    (⟨frames, .operand⟩ : Configuration).steps limit (op :: bound :: operand.tokens) =
      (⟨.waiting op (.narrow quantifier bound.value) :: frames, .operand⟩ : Configuration).steps
        limit operand.tokens := by
  have begun := beginOperand_quantifier frames isOp
  simp only [Configuration.steps_cons, Configuration.step, begun, if_pos isBound,
    Configuration.orRefuse, ok_bind]
  refine steps_tight operand ?_
  intro token begins
  exact if_neg (Kind.ne_dot_of_beginsTight begins)

end Entering

/-! ### Leaves -/

theorem steps_predicate {limit : Limit} {frames : List Frame}
    {name opening first closing : Token} {pairs : List (Token × Token)}
    (isName : name.kind = .letter) (isOpening : opening.kind = .opening)
    (isFirst : first.kind = .letter) (arePairs : ArePairs pairs)
    (isClosing : closing.kind = .closing) :
    (⟨frames, .operand⟩ : Configuration).steps limit
        (name :: opening :: first :: (pairTokens pairs ++ [closing])) =
      .ok ⟨frames, .complete
        (.predicate name.value first.value (pairs.map fun pair => pair.2.value))⟩ := by
  have begun := beginOperand_name frames isName
  have noComma : closing.kind ≠ .comma := by simp [isClosing]
  simp only [Configuration.steps_cons, Configuration.steps_append, Configuration.step, begun,
    if_pos isOpening, if_pos isFirst, steps_pairTokens arePairs, Configuration.orRefuse, ok_bind,
    if_neg noComma, if_pos isClosing, Configuration.steps_nil]
  simp

theorem steps_atom {limit : Limit} {frames : List Frame} {name : Token}
    (isName : name.kind = .letter) :
    (⟨frames, .operand⟩ : Configuration).steps limit [name] = .ok ⟨frames, .name name.value⟩ := by
  rw [Configuration.steps_cons, Configuration.step, beginOperand_name frames isName]
  rfl

theorem steps_constant {limit : Limit} {frames : List Frame} {value : Bool} {token : Token}
    (isValue : token.kind = constantKind value) :
    (⟨frames, .operand⟩ : Configuration).steps limit [token] =
      .ok ⟨frames, .complete (.constant value)⟩ := by
  have begun : beginOperand frames token = some ⟨frames, .complete (.constant value)⟩ := by
    cases value <;> simp [beginOperand, isValue, constantKind]
  rw [Configuration.steps_cons, Configuration.step, begun]
  rfl

/-! ### Reading a tree -/

/-- A tree stands inside frames that can take it and in front of a follower that it cannot reach
    beyond. -/
structure Tree.Placed {s : Stratum} (frames : List Frame) (t : Tree s) (next : Follower) :
    Prop where
  fits : (hole frames).level ≤ s.level
  known : t.agentsKnown = true
  precedes : t.Precedes next
  widest : t.Widest next.ahead

/-- Reading tokens from inside the frames, and then completing what the follower completes, comes to
    the same as checking the operators and completing the frames for their phrase. -/
def Settles (limit : Limit) (frames : List Frame) (next : Follower) (tokens : List Token)
    (nodes : List (Token × Formula)) (f : Formula) (isSealed : Bool) : Prop :=
  ((⟨frames, .operand⟩ : Configuration).steps limit tokens >>= Configuration.settle limit next) =
    (checkOperators limit nodes >>= fun _ => closeFrames limit next frames f isSealed)

/-- What a tree's reading comes to. -/
abbrev Tree.Settles {s : Stratum} (limit : Limit) (frames : List Frame) (next : Follower)
    (t : Tree s) : Prop :=
  ModalLanguage.Settles limit frames next t.tokens t.operators t.formula t.isBiconditional

/-- A phrase of a tighter stratum stands wherever one of a looser stratum does. -/
theorem Tree.Precedes.tighten {s s' : Stratum} {t : Tree s} {t' : Tree s'} {next : Follower}
    (precedes : t.Precedes next) (tighter : s.level ≤ s'.level)
    (same : t'.isBiconditional = t.isBiconditional) : t'.Precedes next := by
  cases next with
  | connective op =>
      rcases precedes with level | ⟨rfl, both⟩
      · exact .inl (level.trans tighter)
      · exact .inr ⟨rfl, same.trans both⟩
  | closing | ending => trivial

/-- A tree stands wherever one of a looser stratum does that derives the same. -/
theorem Tree.Alike.placed {s s' : Stratum} {t : Tree s} {t' : Tree s'} {frames : List Frame}
    {next : Follower} (alike : Tree.Alike t t') (tighter : s'.level ≤ s.level)
    (placed : t'.Placed frames next) : t.Placed frames next where
  fits := placed.fits.trans tighter
  known := alike.agentsKnown.symm.trans placed.known
  precedes := placed.precedes.tighten tighter alike.isBiconditional.symm
  widest := (alike.widest _).1 placed.widest

/-- The right operand of a connective is complete in front of what completes the connective. -/
theorem Tree.Placed.right {op : Connective} {left : Tree op.left} {token : Token}
    {isOp : token.kind = op.kind} {right : Tree op.right} {frames : List Frame} {next : Follower}
    (placed : (Tree.binary op left token isOp right).Placed frames next) (f : Formula)
    (frames' : List Frame) : right.Placed (.waiting token (.binary op f) :: frames') next := by
  obtain ⟨-, known, precedes, widest⟩ := placed
  rw [Tree.agentsKnown_binary, Bool.and_eq_true] at known
  have closes := (Tree.precedes_binary_iff op left token isOp right next).1 precedes
  refine ⟨Nat.le_refl _, known.2, ?_, ((Tree.widest_binary op left token isOp right _).1 widest).2⟩
  cases next with
  | connective later =>
      have below := (Connective.closedBy_connective op later).1 closes
      exact .inl (later.left_le_succ_stratum.trans below)
  | closing | ending => trivial

/-- A body stands in front of what it closes before. -/
theorem Tree.precedes_of_closesBefore (body : Tree .formula) {next : Follower}
    (closesBefore : body.ClosesBefore next.ahead) : body.Precedes next := by
  cases next with
  | connective later =>
      rcases closesBefore with ending | closing | ⟨isLater, both⟩
      · cases ending
      · cases later <;> cases closing
      · cases later <;> first | exact .inr ⟨rfl, both⟩ | cases isLater
  | closing | ending => trivial

/-- An operator in front of an operand: the operand is read inside the operator's frame, and what
    completes it completes the operator. -/
theorem settles_operator {limit : Limit} {frames : List Frame} {next : Follower} {token : Token}
    {operator : Operator} {tokens operand : List Token} {nodes : List (Token × Formula)}
    {f : Formula} {isSealed : Bool}
    (enters : (⟨frames, .operand⟩ : Configuration).steps limit tokens =
      (⟨.waiting token operator :: frames, .operand⟩ : Configuration).steps limit operand)
    (inside : Settles limit (.waiting token operator :: frames) next operand nodes f isSealed)
    (closes : operator.closedBy next isSealed = true) :
    Settles limit frames next tokens (nodes ++ [(token, operator.apply f)]) (operator.apply f)
      operator.seals := by
  unfold Settles at inside ⊢
  rw [enters, inside, closeFrames_closes closes, checkOperators_append, bind_assoc]

/-- Tokens behind which a phrase is complete. -/
theorem settles_phrase {limit : Limit} {frames : List Frame} {next : Follower}
    {tokens : List Token} {nodes : List (Token × Formula)} {c : Configuration} {f : Formula}
    (read : (⟨frames, .operand⟩ : Configuration).steps limit tokens =
      checkOperators limit nodes >>= fun _ => .ok c)
    (settled : c.settle limit next = closeFrames limit next frames f false) :
    Settles limit frames next tokens nodes f false := by
  unfold Settles
  rw [read, bind_assoc]
  simp only [ok_bind, settled]

/-- A connective between two operands. -/
theorem settles_binary {limit : Limit} {frames : List Frame} {next : Follower} (op : Connective)
    (left : Tree op.left) (token : Token) (isOp : token.kind = op.kind) (right : Tree op.right)
    (placed : (Tree.binary op left token isOp right).Placed frames next)
    (ihLeft : ∀ {frames : List Frame} {next : Follower}, left.Placed frames next →
      left.Settles limit frames next)
    (ihRight : ∀ {frames : List Frame} {next : Follower}, right.Placed frames next →
      right.Settles limit frames next) :
    Settles limit frames next (left.tokens ++ token :: right.tokens)
      (left.operators ++ right.operators ++ [(token, .binary op left.formula right.formula)])
      (.binary op left.formula right.formula) (op == .biconditional) := by
  have placedRight := placed.right left.formula frames
  obtain ⟨fits, known, precedes, widest⟩ := placed
  rw [Tree.agentsKnown_binary, Bool.and_eq_true] at known
  have widestLeft := ((Tree.widest_binary op left token isOp right _).1 widest).1
  rw [isOp] at widestLeft
  have closes := (Tree.precedes_binary_iff op left token isOp right next).1 precedes
  have singleLeft := left.isBiconditional_eq_false op.two_le_left
  have singleRight := right.isBiconditional_eq_false op.two_le_right
  -- The left operand is complete in front of the connective, and nothing around it is.
  have placedLeft : left.Placed frames (.connective op) :=
    ⟨fits.trans op.stratum_le_left, known.1, .inl (Nat.le_refl _), widestLeft⟩
  have readLeft := ihLeft placedLeft
  unfold Tree.Settles Settles at readLeft
  rw [singleLeft, closeFrames_of_fits left.formula fits] at readLeft
  have follows : (Lookahead.token token.kind).follower? = some (.connective op) := by
    rw [Lookahead.follower?_eq_some_iff, isOp]
    rfl
  have readOp := steps_follower readLeft follows rfl
  have readRight := ihRight placedRight
  have closesFrame : (Operator.binary op left.formula).closedBy next false = true := closes
  unfold Tree.Settles Settles at readRight
  rw [singleRight, closeFrames_closes closesFrame] at readRight
  have seals : (Operator.binary op left.formula).seals = (op == .biconditional) := by
    cases op <;> rfl
  unfold Settles
  rw [List.append_cons, Configuration.steps_append, readOp, bind_assoc, bind_assoc]
  simp only [ok_bind]
  rw [readRight, seals, checkOperators_append, checkOperators_append, bind_assoc, bind_assoc]
  rfl

namespace Tree

/-- Reading the tokens of a tree that cannot reach further comes to its formula, once its operators
    are checked, and to the first operator that is too deep otherwise. -/
theorem settles {s : Stratum} (t : Tree s) {limit : Limit} {frames : List Frame} {next : Follower}
    (placed : t.Placed frames next) : t.Settles limit frames next := by
  induction t generalizing frames next with
  | whole body ih =>
      obtain ⟨fits, known, precedes, widest⟩ := placed
      exact ih ⟨fits.trans (by decide), known, precedes.tighten (by decide) rfl, widest⟩
  | ofImplication body ih | ofDisjunction body ih | ofConjunction body ih | ofUnary body ih
  | ofTight body ih =>
      obtain ⟨fits, known, precedes, widest⟩ := placed
      have single := body.isBiconditional_eq_false (by decide)
      have inside := ih ⟨fits.trans (by decide), known, precedes.tighten (by decide) single, widest⟩
      unfold Tree.Settles at inside
      rw [single] at inside
      exact inside
  | biconditional left op isOp right ihLeft ihRight =>
      exact settles_binary .biconditional left op isOp right placed ihLeft ihRight
  | implication left op isOp right ihLeft ihRight =>
      exact settles_binary .implication left op isOp right placed ihLeft ihRight
  | disjunction left op isOp right ihLeft ihRight =>
      exact settles_binary .disjunction left op isOp right placed ihLeft ihRight
  | conjunction left op isOp right ihLeft ihRight =>
      exact settles_binary .conjunction left op isOp right placed ihLeft ihRight
  | negation op isOp operand ih =>
      obtain ⟨fits, known, precedes, widest⟩ := placed
      have placedOperand : operand.Placed (.waiting op .negation :: frames) next :=
        ⟨Nat.le_refl _, known, operand.precedes_of_level (Nat.le_refl _) next, widest⟩
      exact settles_operator (steps_negation isOp fits _) (ih placedOperand) rfl
  | modal modality op isOp operand ih =>
      obtain ⟨fits, known, precedes, widest⟩ := placed
      have placedOperand : operand.Placed (.waiting op (.modal modality none) :: frames) next :=
        ⟨Nat.le_refl _, known, operand.precedes_of_level (by decide) next, widest⟩
      exact settles_operator (steps_modal isOp operand) (ih placedOperand) rfl
  | indexed modality op isOp mark isMark name isName operand ih =>
      obtain ⟨fits, known, precedes, widest⟩ := placed
      simp only [agentsKnown, Bool.and_eq_true] at known
      obtain ⟨agent, found⟩ := Option.isSome_iff_exists.1 known.1
      have placedOperand :
          operand.Placed (.waiting op (.modal modality (some agent)) :: frames) next :=
        ⟨Nat.le_refl _, known.2, operand.precedes_of_level (by decide) next, widest⟩
      have whole := settles_operator (steps_indexed isOp isMark isName found operand)
        (ih placedOperand) rfl
      unfold Tree.Settles
      simp only [tokens, operators, formula, found]
      exact whole
  | wide quantifier op isOp bound isBound dot isDot body ih =>
      obtain ⟨fits, known, precedes, closesBefore, widest⟩ := placed
      have precedesBody := body.precedes_of_closesBefore closesBefore
      have placedBody : body.Placed (.waiting op (.wide quantifier bound.value) :: frames) next :=
        ⟨Nat.le_refl _, known, precedesBody, widest⟩
      have closes := (body.closedBy_wide_iff quantifier bound.value next).2 closesBefore
      exact settles_operator (steps_wide isOp isBound isDot _) (ih placedBody) closes
  | narrow quantifier op isOp bound isBound body ih =>
      obtain ⟨fits, known, precedes, widest⟩ := placed
      have placedBody :
          body.Placed (.waiting op (.narrow quantifier bound.value) :: frames) next :=
        ⟨Nat.le_refl _, known, body.precedes_of_level (by decide) next, widest⟩
      exact settles_operator (steps_narrow isOp isBound body) (ih placedBody) rfl
  | predicate name isName opening isOpening first isFirst pairs isRest closing isClosing =>
      exact settles_phrase (steps_predicate isName isOpening isFirst isRest isClosing) rfl
  | atom name isName => exact settles_phrase (steps_atom isName) rfl
  | constant value token isValue => exact settles_phrase (steps_constant isValue) rfl
  | bracketed opening isOpening body closing isClosing ih =>
      obtain ⟨fits, known, precedes, widest⟩ := placed
      have begun : beginOperand frames opening = some ⟨.bracket :: frames, .operand⟩ := by
        simp [beginOperand, isOpening]
      have follows : (Lookahead.token closing.kind).follower? = some .closing := by
        rw [isClosing]
        rfl
      have placedBody : body.Placed (.bracket :: frames) .closing := by
        refine ⟨Nat.zero_le _, known, trivial, ?_⟩
        rw [Widest, isClosing] at widest
        exact widest
      have readBody := steps_follower (ih placedBody) follows rfl
      have read : (⟨frames, .operand⟩ : Configuration).steps limit
            (opening :: (body.tokens ++ [closing])) =
          checkOperators limit body.operators >>= fun _ =>
            .ok ⟨frames, .complete body.formula⟩ := by
        rw [Configuration.steps_cons, Configuration.step, begun]
        exact readBody
      exact settles_phrase read rfl

/-- A whole derivation is read to its end. -/
theorem steps_finish (t : Tree .formula) (limit : Limit) (known : t.agentsKnown = true)
    (widest : t.Widest .ending) :
    (Configuration.start.steps limit t.tokens >>= fun c => c.finish limit) =
      (checkOperators limit t.operators >>= fun _ => .ok t.formula) := by
  have placed : t.Placed [] .ending := ⟨Nat.le_refl _, known, trivial, widest⟩
  have settled : t.Settles limit [] .ending := t.settles placed
  unfold Settles ModalLanguage.Settles at settled
  change (Configuration.start.steps limit t.tokens >>= Configuration.settle limit .ending) =
    (checkOperators limit t.operators >>= fun _ =>
      .ok ⟨[], t.formula, t.isBiconditional⟩) at settled
  cases read : Configuration.start.steps limit t.tokens with
  | error failure =>
      rw [read] at settled
      cases checked : checkOperators limit t.operators with
      | error failure' =>
          rw [checked] at settled
          cases settled
          rfl
      | ok passed =>
          rw [checked] at settled
          cases settled
  | ok c =>
      rw [read, ok_bind] at settled
      rw [ok_bind, c.finish_eq_settle, settled]
      cases checkOperators limit t.operators <;> rfl

end Tree

/-! ### The nesting of a tree -/

/-- No two formulas are too deep for every limit. -/
theorem Limit.exists_within (f g : Formula) :
    ∃ limit : Limit, f.nesting ≤ limit.nesting ∧ g.nesting ≤ limit.nesting :=
  ⟨⟨max f.nesting g.nesting + 1, Nat.succ_pos _⟩, Nat.le_succ_of_le (Nat.le_max_left _ _),
    Nat.le_succ_of_le (Nat.le_max_right _ _)⟩

namespace Tree

/-- No operator makes a formula that is nested more deeply than the whole one. -/
theorem nesting_le_of_mem_operators {s : Stratum} (t : Tree s) {node : Token × Formula}
    (member : node ∈ t.operators) : node.2.nesting ≤ t.formula.nesting := by
  induction t with
  | whole body ih | ofImplication body ih | ofDisjunction body ih | ofConjunction body ih
  | ofUnary body ih | ofTight body ih => exact ih member
  | biconditional left op isOp right ihLeft ihRight
  | implication left op isOp right ihLeft ihRight
  | disjunction left op isOp right ihLeft ihRight
  | conjunction left op isOp right ihLeft ihRight =>
      simp only [operators, List.mem_append, List.mem_singleton] at member
      rcases member with (inLeft | inRight) | rfl
      · exact (ihLeft inLeft).trans (Formula.nesting_left_le _ _ _)
      · exact (ihRight inRight).trans (Formula.nesting_right_le _ _ _)
      · exact Nat.le_refl _
  | negation op isOp operand ih | modal modality op isOp operand ih
  | indexed modality op isOp mark isMark name isName operand ih
  | wide quantifier op isOp bound isBound dot isDot operand ih
  | narrow quantifier op isOp bound isBound operand ih =>
      simp only [operators, List.mem_append, List.mem_singleton] at member
      rcases member with inside | rfl
      · exact Nat.le_succ_of_le (ih inside)
      · exact Nat.le_refl _
  | predicate | atom | constant => cases member
  | bracketed opening isOpening body closing isClosing ih => exact ih member

/-- The formula itself is made by the last operator, or it has none. -/
theorem nesting_le_of_operators {s : Stratum} (t : Tree s) {bound : Nat} (positive : 0 < bound)
    (within : ∀ node ∈ t.operators, node.2.nesting ≤ bound) : t.formula.nesting ≤ bound := by
  induction t with
  | whole body ih | ofImplication body ih | ofDisjunction body ih | ofConjunction body ih
  | ofUnary body ih | ofTight body ih => exact ih within
  | biconditional | implication | disjunction | conjunction | negation | modal | indexed | wide
  | narrow => exact within _ (List.mem_append_right _ (List.mem_singleton_self _))
  | predicate | atom | constant => exact positive
  | bracketed opening isOpening body closing isClosing ih => exact ih within

/-- Every operator of a formula is within a limit exactly when the formula is. -/
theorem checkOperators_eq_ok_iff {s : Stratum} (t : Tree s) (limit : Limit) :
    checkOperators limit t.operators = .ok () ↔ t.formula.nesting ≤ limit.nesting := by
  rw [ModalLanguage.checkOperators_eq_ok_iff]
  constructor
  · exact t.nesting_le_of_operators limit.positive
  · intro within node member
    exact (t.nesting_le_of_mem_operators member).trans within

/-- Two derivations of the same tokens that cannot reach further have the same formula. -/
theorem formula_eq_of_widest {t t' : Tree .formula} (tokens_eq : t.tokens = t'.tokens)
    (known : t.agentsKnown = true) (widest : t.Widest .ending) (widest' : t'.Widest .ending) :
    t.formula = t'.formula := by
  have known' : t'.agentsKnown = true := by
    rw [agentsKnown_iff, ← tokens_eq, ← agentsKnown_iff]
    exact known
  -- Under a limit that is large enough for both, the tokens are read as both formulas.
  obtain ⟨limit, within, within'⟩ := Limit.exists_within t.formula t'.formula
  have read := t.steps_finish limit known widest
  have read' := t'.steps_finish limit known' widest'
  have passes := (t.checkOperators_eq_ok_iff limit).2 within
  have passes' := (t'.checkOperators_eq_ok_iff limit).2 within'
  rw [passes, ok_bind] at read
  rw [passes', ok_bind, ← tokens_eq, read] at read'
  exact Except.ok.inj read'

end Tree

/-! ### The outcome of parsing, told from one tree -/

/-- When a text's tokens are those of a derivation that cannot reach further, parsing returns its
    formula if the limit allows it, and fails at the first operator that is too deep if not. -/
theorem Parser.parse_of_widest {p : Parser} {text : String} {t : Tree .formula}
    (noFault : (tokenize text).fault = none) (tokens_eq : (tokenize text).tokens = t.tokens)
    (known : t.agentsKnown = true) (widest : t.Widest .ending) :
    p.parse text =
      match checkOperators p.limit t.operators with
      | .ok _ => .ok t.formula
      | .error failure => .error (.parse (failure.report text p.limit)) := by
  have finished := t.steps_finish p.limit known widest
  rw [parse_eq, noFault, tokens_eq]
  cases read : Configuration.start.steps p.limit t.tokens with
  | error failure =>
      rw [read, error_bind] at finished
      cases checked : checkOperators p.limit t.operators with
      | error failure' =>
          rw [checked] at finished
          cases finished
          rfl
      | ok passed =>
          rw [checked] at finished
          cases finished
  | ok c =>
      rw [read, ok_bind] at finished
      simp only [finished]
      cases checkOperators p.limit t.operators <;> rfl

end ModalLanguage
