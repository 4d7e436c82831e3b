/-
Module: ModalLanguage.Proofs.Derivation
Purpose: What has been read is always the beginning of a derivation. The invariant ties a
  configuration to the tokens in front of it: the open frames hold the complete left operands and
  the operators that wait (`Opened`), the focus holds the rest (`Reads`). One step keeps the
  invariant, so every formula that a reading ends with is the meaning of a derivation of all its
  tokens, and no quantifier with a dot in that derivation could reach further.
Main exports: Opened, Pending, Applied, Pending.apply, closeFrames_pending, closeFrames_tooDeep,
  Reads, Reads.step, Reads.steps, Reads.finish, Opened.nested, Opened.weight_le
-/
import ModalLanguage.Proofs.Reading

namespace ModalLanguage

/-- The tokens that opened the frames, innermost frame first. The left operands of connectives are
    derivations that cannot reach further, and every agent is known. -/
inductive Opened : List Frame → List Token → Prop where
  | start : Opened [] []
  | bracket {frames : List Frame} {tokens : List Token} {opening : Token}
      (outer : Opened frames tokens) (isOpening : opening.kind = .opening) :
      Opened (.bracket :: frames) (tokens ++ [opening])
  | negation {frames : List Frame} {tokens : List Token} {op : Token}
      (outer : Opened frames tokens) (isOp : op.kind = .negation)
      (fits : (hole frames).level ≤ Stratum.unary.level) :
      Opened (.waiting op .negation :: frames) (tokens ++ [op])
  | modal {frames : List Frame} {tokens : List Token} {modality : Modality} {op : Token}
      (outer : Opened frames tokens) (isOp : op.kind = modality.kind) :
      Opened (.waiting op (.modal modality none) :: frames) (tokens ++ [op])
  | indexed {frames : List Frame} {tokens : List Token} {modality : Modality} {op mark name : Token}
      {agent : Agent} (outer : Opened frames tokens) (isOp : op.kind = modality.kind)
      (isMark : mark.kind = .underscore) (isName : name.kind = .letter ∨ name.kind = .agent)
      (known : Agent.ofName? name.value = some agent) :
      Opened (.waiting op (.modal modality (some agent)) :: frames) (tokens ++ [op, mark, name])
  | wide {frames : List Frame} {tokens : List Token} {quantifier : Quantifier}
      {op bound dot : Token} (outer : Opened frames tokens) (isOp : op.kind = quantifier.kind)
      (isBound : bound.kind = .letter) (isDot : dot.kind = .dot) :
      Opened (.waiting op (.wide quantifier bound.value) :: frames) (tokens ++ [op, bound, dot])
  | narrow {frames : List Frame} {tokens : List Token} {quantifier : Quantifier} {op bound : Token}
      (outer : Opened frames tokens) (isOp : op.kind = quantifier.kind)
      (isBound : bound.kind = .letter) :
      Opened (.waiting op (.narrow quantifier bound.value) :: frames) (tokens ++ [op, bound])
  | binary {frames : List Frame} {tokens : List Token} {op : Connective} {token : Token}
      {left : Tree op.left} (outer : Opened frames tokens) (isOp : token.kind = op.kind)
      (known : left.agentsKnown = true) (widest : left.Widest (.token token.kind))
      (fits : (hole frames).level ≤ op.stratum.level) :
      Opened (.waiting token (.binary op left.formula) :: frames)
        (tokens ++ (left.tokens ++ [token]))

theorem Opened.nested {frames : List Frame} {tokens : List Token} (opened : Opened frames tokens) :
    Nested frames := by
  induction opened with
  | start => trivial
  | bracket outer isOpening ih => exact ih
  | negation outer isOp fits ih => exact ⟨fits, ih⟩
  | modal | indexed | wide | narrow => exact ⟨Stratum.level_le_tight _, by assumption⟩
  | binary outer isOp known widest fits ih => exact ⟨fits, ih⟩

/-- The frames hold no more nodes than there are tokens in front of them. -/
theorem Opened.weight_le {frames : List Frame} {tokens : List Token}
    (opened : Opened frames tokens) : weight frames ≤ tokens.length := by
  induction opened with
  | start => exact Nat.le_refl 0
  | @binary frames tokens op token left outer isOp known widest fits ih =>
      have size := left.size_formula_le
      simp only [weight, Operator.weight, List.length_append, List.length_singleton]
      omega
  | _ =>
      simp only [weight, Operator.weight, List.length_append, List.length_cons, List.length_nil]
      omega

/-! ### Completing what a follower completes -/

/-- A phrase inside its frames, in front of a follower: some derivation of the phrase fits in there
    and cannot reach further. -/
inductive Pending (next : Follower) : Phrase → List Token → Prop where
  | intro {frames : List Frame} {tokens : List Token} {s : Stratum} (tree : Tree s)
      (opened : Opened frames tokens) (fits : (hole frames).level ≤ s.level)
      (known : tree.agentsKnown = true) (widest : tree.Widest next.ahead)
      (precedes : tree.Precedes next) :
      Pending next ⟨frames, tree.formula, tree.isBiconditional⟩ (tokens ++ tree.tokens)

/-- A pending phrase that an operator has just made of its operands: the derivation of the phrase is
    made by the operator's token, and there is no bracket around it. -/
inductive Applied (next : Follower) (op : Token) : Phrase → List Token → Prop where
  | intro {frames : List Frame} {tokens : List Token} {s : Stratum} (tree : Tree s)
      (opened : Opened frames tokens) (fits : (hole frames).level ≤ s.level)
      (known : tree.agentsKnown = true) (widest : tree.Widest next.ahead)
      (precedes : tree.Precedes next) (root : tree.root? = some op) :
      Applied next op ⟨frames, tree.formula, tree.isBiconditional⟩ (tokens ++ tree.tokens)

theorem Applied.pending {next : Follower} {op : Token} {phrase : Phrase} {read : List Token}
    (applied : Applied next op phrase read) : Pending next phrase read := by
  obtain ⟨tree, opened, fits, known, widest, precedes, -⟩ := applied
  exact .intro tree opened fits known widest precedes

/-- A tree that is an operand of its own can stand in front of every follower. -/
theorem Tree.precedes_of_level {s : Stratum} (t : Tree s)
    (tight : Stratum.unary.level ≤ s.level) (next : Follower) : t.Precedes next := by
  cases next with
  | connective op =>
      have left : op.left.level ≤ Stratum.unary.level := by cases op <;> decide
      exact .inl (left.trans tight)
  | closing | ending => trivial

/-- A connective with its operands can stand in front of just what completes it. -/
theorem Tree.precedes_binary_iff (op : Connective) (left : Tree op.left) (token : Token)
    (isOp : token.kind = op.kind) (right : Tree op.right) (next : Follower) :
    (Tree.binary op left token isOp right).Precedes next ↔ op.closedBy next = true := by
  cases next with
  | connective later =>
      rw [Connective.closedBy_connective, Tree.Precedes, Tree.isBiconditional_binary]
      cases op <;> cases later <;> decide
  | closing | ending => exact ⟨fun _ => rfl, fun _ => trivial⟩

/-- A wide quantifier takes its body just in front of what its body closes before. -/
theorem Tree.closedBy_wide_iff (body : Tree .formula) (quantifier : Quantifier) (bound : String)
    (next : Follower) :
    (Operator.wide quantifier bound).closedBy next body.isBiconditional = true ↔
      body.ClosesBefore next.ahead := by
  cases next with
  | connective op => cases op <;> simp [Operator.closedBy, ClosesBefore, Follower.ahead,
      Connective.kind]
  | closing => exact ⟨fun _ => .inr (.inl rfl), fun _ => rfl⟩
  | ending => exact ⟨fun _ => .inl rfl, fun _ => rfl⟩

/-- An operator takes the phrase behind it: the derivation of the phrase becomes its operand. -/
theorem Pending.apply {next : Follower} {token : Token} {operator : Operator}
    {frames : List Frame} {f : Formula} {isSealed : Bool} {read : List Token}
    (pending : Pending next ⟨.waiting token operator :: frames, f, isSealed⟩ read)
    (closes : operator.closedBy next isSealed = true) :
    Applied next token ⟨frames, operator.apply f, operator.seals⟩ read := by
  obtain ⟨tree, opened, fits, known, widest, precedes⟩ := pending
  cases opened with
  | negation outer isOp fitsOuter =>
      obtain ⟨operand, alike⟩ := tree.exists_lift .unary fits
      have whole := Applied.intro (.negation token isOp operand) outer fitsOuter
        (alike.agentsKnown.trans known) ((alike.widest _).2 widest)
        (Tree.precedes_of_level _ (Nat.le_refl _) next) rfl
      simpa [Operator.apply, Operator.seals, Tree.formula, Tree.tokens, Tree.isBiconditional,
        alike.formula, alike.tokens] using whole
  | @modal _ _ modality _ outer isOp =>
      obtain ⟨operand, alike⟩ := tree.exists_lift .tight fits
      have whole := Applied.intro (.modal modality token isOp operand) outer
        (Stratum.level_le_tight _) (alike.agentsKnown.trans known) ((alike.widest _).2 widest)
        (Tree.precedes_of_level _ (by decide) next) rfl
      simpa [Operator.apply, Operator.seals, Tree.formula, Tree.tokens, Tree.isBiconditional,
        alike.formula, alike.tokens] using whole
  | @indexed _ _ modality _ mark name agent outer isOp isMark isName knownAgent =>
      obtain ⟨operand, alike⟩ := tree.exists_lift .tight fits
      have whole := Applied.intro (.indexed modality token isOp mark isMark name isName operand)
        outer (Stratum.level_le_tight _)
        (by simp [Tree.agentsKnown, knownAgent, alike.agentsKnown, known])
        ((alike.widest _).2 widest) (Tree.precedes_of_level _ (by decide) next) rfl
      simpa [Operator.apply, Operator.seals, Tree.formula, Tree.tokens, Tree.isBiconditional,
        alike.formula, alike.tokens, knownAgent] using whole
  | @wide _ _ quantifier _ bound dot outer isOp isBound isDot =>
      obtain ⟨body, alike⟩ := tree.exists_lift .formula (Nat.zero_le _)
      rw [← alike.isBiconditional] at closes
      have whole := Applied.intro (.wide quantifier token isOp bound isBound dot isDot body) outer
        (Stratum.level_le_tight _) (alike.agentsKnown.trans known)
        ⟨(body.closedBy_wide_iff quantifier _ next).1 closes, (alike.widest _).2 widest⟩
        (Tree.precedes_of_level _ (by decide) next) rfl
      simpa [Operator.apply, Operator.seals, Tree.formula, Tree.tokens, Tree.isBiconditional,
        alike.formula, alike.tokens] using whole
  | @narrow _ _ quantifier _ bound outer isOp isBound =>
      obtain ⟨body, alike⟩ := tree.exists_lift .tight fits
      have whole := Applied.intro (.narrow quantifier token isOp bound isBound body) outer
        (Stratum.level_le_tight _) (alike.agentsKnown.trans known) ((alike.widest _).2 widest)
        (Tree.precedes_of_level _ (by decide) next) rfl
      simpa [Operator.apply, Operator.seals, Tree.formula, Tree.tokens, Tree.isBiconditional,
        alike.formula, alike.tokens] using whole
  | @binary _ _ op _ left outer isOp knownLeft widestLeft fitsOuter =>
      obtain ⟨right, alike⟩ := tree.exists_lift op.right fits
      have whole := Applied.intro (.binary op left token isOp right) outer fitsOuter
        (by rw [Tree.agentsKnown_binary, knownLeft, alike.agentsKnown, known]; rfl)
        ((Tree.widest_binary op left token isOp right _).2
          ⟨widestLeft, (alike.widest _).2 widest⟩)
        ((Tree.precedes_binary_iff op left token isOp right next).2 closes)
        (Tree.root?_binary op left token isOp right)
      have seals : (Operator.binary op left.formula).seals = (op == .biconditional) := by
        cases op <;> rfl
      simpa [Operator.apply, seals, alike.formula, alike.tokens] using whole

/-- An operator is too deep when the formula that it makes of its operands is. -/
theorem closeFrames_tooDeep {limit : Limit} {next : Follower} {frames : List Frame} {f : Formula}
    {isSealed : Bool} {operator : Token} {read : List Token}
    (pending : Pending next ⟨frames, f, isSealed⟩ read)
    (failed : closeFrames limit next frames f isSealed = .error (.tooDeep operator)) :
    ∃ phrase, Applied next operator phrase read ∧ limit.nesting < phrase.formula.nesting := by
  fun_induction closeFrames limit next frames f isSealed with
  | case1 token operator' frames f isSealed closes allowed ih =>
      exact ih (pending.apply closes).pending failed
  | case2 token operator' frames f isSealed closes tooDeep =>
      cases failed
      refine ⟨_, pending.apply closes, ?_⟩
      simpa [Limit.allows] using tooDeep
  | case3 | case4 => cases failed

/-- Completing frames changes nothing about what was read. -/
theorem closeFrames_pending {limit : Limit} {next : Follower} {frames : List Frame} {f : Formula}
    {isSealed : Bool} {phrase : Phrase} {read : List Token}
    (pending : Pending next ⟨frames, f, isSealed⟩ read)
    (closed : closeFrames limit next frames f isSealed = .ok phrase) :
    Pending next phrase read := by
  fun_induction closeFrames limit next frames f isSealed with
  | case1 token operator frames f isSealed closes allowed ih =>
      exact ih (pending.apply closes).pending closed
  | case2 => cases closed
  | case3 | case4 =>
      cases closed
      exact pending

/-- Where completing stops in front of a connective, the connective fits inside the frames. -/
theorem closeFrames_fits {limit : Limit} {op : Connective} {frames : List Frame} {f : Formula}
    {isSealed : Bool} {phrase : Phrase}
    (closed : closeFrames limit (.connective op) frames f isSealed = .ok phrase)
    (unsealed : phrase.isSealed = false) : (hole phrase.frames).level ≤ op.stratum.level := by
  fun_induction closeFrames limit (.connective op) frames f isSealed with
  | case1 token operator frames f isSealed closes allowed ih => exact ih closed
  | case2 => cases closed
  | case3 token operator frames f isSealed stays =>
      cases closed
      subst unsealed
      rw [operator.closedBy_connective] at stays
      exact Nat.not_lt.1 stays
  | case4 frames f isSealed notWaiting =>
      cases closed
      rcases eq_nil_or_bracket notWaiting with rfl | ⟨outer, rfl⟩
      · exact Nat.zero_le _
      · exact Nat.zero_le _

/-! ### Reading tokens -/

/-- A configuration is what reading the tokens leads to: in front of the focus the tokens opened the
    frames, and the focus holds the others. -/
inductive Reads : Configuration → List Token → Prop where
  | operand {frames : List Frame} {tokens : List Token} (opened : Opened frames tokens) :
      Reads ⟨frames, .operand⟩ tokens
  | modality {frames : List Frame} {tokens : List Token} {modality : Modality} {op : Token}
      (opened : Opened frames tokens) (isOp : op.kind = modality.kind) :
      Reads ⟨frames, .modality op modality⟩ (tokens ++ [op])
  | subscript {frames : List Frame} {tokens : List Token} {modality : Modality} {op mark : Token}
      (opened : Opened frames tokens) (isOp : op.kind = modality.kind)
      (isMark : mark.kind = .underscore) :
      Reads ⟨frames, .subscript op modality⟩ (tokens ++ [op, mark])
  | agent {frames : List Frame} {tokens : List Token} {modality : Modality} {op mark name : Token}
      (opened : Opened frames tokens) (isOp : op.kind = modality.kind)
      (isMark : mark.kind = .underscore) (isName : name.kind = .letter ∨ name.kind = .agent) :
      Reads ⟨frames, .agent op modality name⟩ (tokens ++ [op, mark, name])
  | quantifier {frames : List Frame} {tokens : List Token} {quantifier : Quantifier} {op : Token}
      (opened : Opened frames tokens) (isOp : op.kind = quantifier.kind) :
      Reads ⟨frames, .quantifier op quantifier⟩ (tokens ++ [op])
  | bound {frames : List Frame} {tokens : List Token} {quantifier : Quantifier} {op bound : Token}
      (opened : Opened frames tokens) (isOp : op.kind = quantifier.kind)
      (isBound : bound.kind = .letter) :
      Reads ⟨frames, .bound op quantifier bound.value⟩ (tokens ++ [op, bound])
  | name {frames : List Frame} {tokens : List Token} {name : Token}
      (opened : Opened frames tokens) (isName : name.kind = .letter) :
      Reads ⟨frames, .name name.value⟩ (tokens ++ [name])
  | «arguments» {frames : List Frame} {tokens : List Token} {name opening : Token}
      (opened : Opened frames tokens) (isName : name.kind = .letter)
      (isOpening : opening.kind = .opening) :
      Reads ⟨frames, .arguments name.value⟩ (tokens ++ [name, opening])
  | argument {frames : List Frame} {tokens : List Token} {name opening first : Token}
      {pairs : List (Token × Token)} (opened : Opened frames tokens)
      (isName : name.kind = .letter) (isOpening : opening.kind = .opening)
      (isFirst : first.kind = .letter) (arePairs : ArePairs pairs) :
      Reads ⟨frames, .argument name.value first.value
        (pairs.map fun pair => pair.2.value).reverse⟩
        (tokens ++ (name :: opening :: first :: pairTokens pairs))
  | separator {frames : List Frame} {tokens : List Token} {name opening first comma : Token}
      {pairs : List (Token × Token)} (opened : Opened frames tokens)
      (isName : name.kind = .letter) (isOpening : opening.kind = .opening)
      (isFirst : first.kind = .letter) (arePairs : ArePairs pairs)
      (isComma : comma.kind = .comma) :
      Reads ⟨frames, .separator name.value first.value
        (pairs.map fun pair => pair.2.value).reverse⟩
        (tokens ++ (name :: opening :: first :: pairTokens pairs ++ [comma]))
  | complete {frames : List Frame} {tokens : List Token} (tree : Tree .tight)
      (opened : Opened frames tokens) (known : tree.agentsKnown = true)
      (widest : ∀ ahead, tree.Widest ahead) :
      Reads ⟨frames, .complete tree.formula⟩ (tokens ++ tree.tokens)

theorem reads_start : Reads .start [] := .operand .start

theorem Opened.beginOperand {frames : List Frame} {tokens : List Token} {token : Token}
    {next : Configuration} (opened : Opened frames tokens)
    (begun : beginOperand frames token = some next) : Reads next (tokens ++ [token]) := by
  unfold ModalLanguage.beginOperand at begun
  split at begun
  · rename_i isName
    cases begun
    exact .name opened isName
  · rename_i isValue
    cases begun
    exact .complete (.constant true token isValue) opened rfl fun _ => trivial
  · rename_i isValue
    cases begun
    exact .complete (.constant false token isValue) opened rfl fun _ => trivial
  · rename_i isOp
    cases begun
    exact .modality opened isOp
  · rename_i isOp
    cases begun
    exact .modality opened isOp
  · rename_i isOp
    cases begun
    exact .quantifier opened isOp
  · rename_i isOp
    cases begun
    exact .quantifier opened isOp
  · rename_i isOpening
    cases begun
    exact .operand (opened.bracket isOpening)
  · rename_i isOp
    split at begun
    · cases begun
    · rename_i accepts
      cases begun
      have fits : (hole frames).level ≤ Stratum.unary.level := by
        rw [refusesNegation_eq_true_iff] at accepts
        cases h : hole frames <;> simp_all [Stratum.level]
      exact .operand (opened.negation isOp fits)
  · cases begun

/-- A complete phrase is pending in front of whatever follows. -/
theorem Reads.pending {c : Configuration} {tokens : List Token} {phrase : Formula}
    (reads : Reads c tokens) (complete : c.phrase? = some phrase) (next : Follower) :
    Pending next ⟨c.frames, phrase, false⟩ tokens := by
  cases reads with
  | @name frames before name opened isName =>
      cases complete
      exact .intro (.atom name isName) opened (Stratum.level_le_tight _) rfl trivial
        (Tree.precedes_of_level _ (by decide) next)
  | complete tree opened known widest =>
      cases complete
      have pending := Pending.intro tree opened (Stratum.level_le_tight _) known
        (widest next.ahead) (Tree.precedes_of_level _ (by decide) next)
      rwa [tree.isBiconditional_eq_false (by decide)] at pending
  | _ => cases complete

/-- The token behind a pending phrase takes its place. -/
theorem Pending.takeFollower {limit : Limit} {next : Follower} {frames : List Frame} {f : Formula}
    {isSealed : Bool} {phrase : Phrase} {read : List Token} {token : Token} {c : Configuration}
    (pending : Pending next ⟨frames, f, isSealed⟩ read)
    (closed : closeFrames limit next frames f isSealed = .ok phrase)
    (follows : (Lookahead.token token.kind).follower? = some next)
    (taken : takeFollower token next phrase = some c) : Reads c (read ++ [token]) := by
  obtain ⟨tree, opened, fits, known, widest, precedes⟩ := closeFrames_pending pending closed
  have ahead := Lookahead.follower?_eq_some_iff.1 follows
  cases next with
  | connective op =>
      cases both : tree.isBiconditional with
      | true => simp [ModalLanguage.takeFollower, both] at taken
      | false =>
          have fitsOp := closeFrames_fits closed both
          have isOp : token.kind = op.kind := by simpa [Follower.ahead] using ahead
          -- The phrase is no biconditional, so it can stand where a left operand is wanted.
          have looser : op.left.level ≤ _ := precedes.resolve_right (by simp [both])
          obtain ⟨left, alike⟩ := tree.exists_lift op.left looser
          have widestLeft : left.Widest (.token token.kind) := by
            rw [alike.widest, ahead]
            exact widest
          have whole := Reads.operand
            (opened.binary isOp (alike.agentsKnown.trans known) widestLeft fitsOp)
          simp only [ModalLanguage.takeFollower, both, Bool.false_eq_true, if_false,
            Option.some.injEq] at taken
          subst taken
          simpa [alike.formula, alike.tokens] using whole
  | closing =>
      have isClosing : token.kind = .closing := by simpa [Follower.ahead] using ahead
      cases opened with
      | @bracket frames before opening outer isOpening =>
          obtain ⟨body, alike⟩ := tree.exists_lift .formula (Nat.zero_le _)
          have widestBody : body.Widest (.token token.kind) := by
            rw [alike.widest, ahead]
            exact widest
          have whole := Reads.complete (.bracketed opening isOpening body token isClosing) outer
            (alike.agentsKnown.trans known) fun _ => widestBody
          cases taken
          simpa [Tree.formula, Tree.tokens, alike.formula, alike.tokens] using whole
      | _ => cases taken
  | ending => cases ahead

theorem Reads.stepPhrase {limit : Limit} {c next : Configuration} {tokens : List Token}
    {phrase : Formula} {token : Token} (reads : Reads c tokens)
    (complete : c.phrase? = some phrase) (taken : c.stepPhrase limit phrase token = .ok next) :
    Reads next (tokens ++ [token]) := by
  unfold Configuration.stepPhrase at taken
  split at taken
  · cases taken
  · rename_i follower follows
    split at taken
    · cases taken
    · rename_i closed closes
      exact (reads.pending complete follower).takeFollower closes follows
        (Configuration.orRefuse_ok taken)

/-- One step keeps the invariant. -/
theorem Reads.step {limit : Limit} {c next : Configuration} {tokens : List Token} {token : Token}
    (reads : Reads c tokens) (taken : c.step limit token = .ok next) :
    Reads next (tokens ++ [token]) := by
  cases reads with
  | operand opened => exact opened.beginOperand (Configuration.orRefuse_ok taken)
  | @modality frames before modality op opened isOp =>
      simp only [Configuration.step] at taken
      split at taken
      · rename_i isMark
        cases taken
        simpa using Reads.subscript opened isOp isMark
      · exact (opened.modal isOp).beginOperand (Configuration.orRefuse_ok taken)
  | subscript opened isOp isMark =>
      simp only [Configuration.step] at taken
      split at taken
      · rename_i isName
        cases taken
        simpa using Reads.agent opened isOp isMark isName
      · cases taken
  | agent opened isOp isMark isName =>
      simp only [Configuration.step] at taken
      split at taken
      · split at taken
        · rename_i agent known
          exact (opened.indexed isOp isMark isName known).beginOperand
            (Configuration.orRefuse_ok taken)
        · cases taken
      · cases taken
  | quantifier opened isOp =>
      simp only [Configuration.step] at taken
      split at taken
      · rename_i isBound
        cases taken
        simpa using Reads.bound opened isOp isBound
      · cases taken
  | bound opened isOp isBound =>
      simp only [Configuration.step] at taken
      split at taken
      · rename_i isDot
        cases taken
        simpa using Reads.operand (opened.wide isOp isBound isDot)
      · exact (opened.narrow isOp isBound).beginOperand (Configuration.orRefuse_ok taken)
  | name opened isName =>
      simp only [Configuration.step] at taken
      split at taken
      · rename_i isOpening
        cases taken
        simpa using Reads.arguments opened isName isOpening
      · exact (Reads.name opened isName).stepPhrase rfl taken
  | «arguments» opened isName isOpening =>
      simp only [Configuration.step] at taken
      split at taken
      · rename_i isFirst
        cases taken
        have noPairs : ArePairs [] := by simp [ArePairs]
        have first := Reads.argument opened isName isOpening isFirst noPairs
        simpa [pairTokens] using first
      · cases taken
  | argument opened isName isOpening isFirst arePairs =>
      simp only [Configuration.step] at taken
      split at taken
      · rename_i isComma
        cases taken
        simpa using Reads.separator opened isName isOpening isFirst arePairs isComma
      · split at taken
        · rename_i isClosing
          cases taken
          have whole := Reads.complete
            (.predicate _ isName _ isOpening _ isFirst _ arePairs _ isClosing) opened rfl
            fun _ => trivial
          simpa [Tree.formula, Tree.tokens, pairTokens] using whole
        · cases taken
  | @separator frames before name opening first comma pairs opened isName isOpening isFirst arePairs
      isComma =>
      simp only [Configuration.step] at taken
      split at taken
      · rename_i isNext
        cases taken
        have morePairs : ArePairs (pairs ++ [(comma, token)]) := by
          simpa [ArePairs, or_imp, forall_and, isComma, isNext] using arePairs
        have more := Reads.argument opened isName isOpening isFirst morePairs
        simpa [pairTokens] using more
      · cases taken
  | complete tree opened known widest =>
      exact (Reads.complete tree opened known widest).stepPhrase rfl taken

/-- So does a whole reading. -/
theorem Reads.steps {limit : Limit} {c next : Configuration} {before tokens : List Token}
    (reads : Reads c before) (read : c.steps limit tokens = .ok next) :
    Reads next (before ++ tokens) := by
  induction tokens generalizing c before with
  | nil =>
      cases read
      simpa using reads
  | cons token rest ih =>
      obtain ⟨middle, taken, readRest⟩ := Configuration.exists_step_of_steps read
      simpa using ih (reads.step taken) readRest

/-- A reading that ends with a formula has read a derivation of it that cannot reach further. -/
theorem Reads.finish {limit : Limit} {c : Configuration} {tokens : List Token} {f : Formula}
    (reads : Reads c tokens) (finished : c.finish limit = .ok f) :
    ∃ tree : Tree .formula, tree.tokens = tokens ∧ tree.agentsKnown = true ∧
      tree.Widest .ending ∧ tree.formula = f := by
  obtain ⟨phrase, isSealed, complete, closes⟩ := Configuration.finish_ok finished
  generalize closed_eq : (⟨[], f, isSealed⟩ : Phrase) = closed at closes
  obtain ⟨tree, opened, fits, known, widest, precedes⟩ :=
    closeFrames_pending (reads.pending complete .ending) closes
  cases closed_eq
  cases opened with
  | start =>
      obtain ⟨whole, alike⟩ := tree.exists_lift .formula (Nat.zero_le _)
      exact ⟨whole, by simpa using alike.tokens, alike.agentsKnown.trans known,
        (alike.widest _).2 widest, alike.formula⟩

/-! ### Room for all nodes -/

theorem Pending.size_le {next : Follower} {phrase : Phrase} {read : List Token}
    (pending : Pending next phrase read) :
    weight phrase.frames + phrase.formula.size ≤ read.length := by
  obtain ⟨tree, opened, fits, known, widest, precedes⟩ := pending
  have frames := opened.weight_le
  have nodes := tree.size_formula_le
  simp only [List.length_append]
  omega

/-- With as many tokens as the limit allows nodes, no operator that is completed is too deep. -/
theorem Reads.exists_closeFrames {limit : Limit} {c : Configuration} {tokens : List Token}
    {phrase : Formula} (reads : Reads c tokens) (complete : c.phrase? = some phrase)
    (room : tokens.length ≤ limit.nesting) (next : Follower) :
    ∃ closed, closeFrames limit next c.frames phrase false = .ok closed :=
  exists_closeFrames_of_weight ((reads.pending complete next).size_le.trans room)

end ModalLanguage
