/-
Module: ModalLanguage.Proofs.OperatorEnd
Purpose: Where an operator ends. A derivation that an operator makes of its operands ends with the
  last of them, and where this is follows from the place of the operator alone. For when a phrase is
  complete and a connective goes on behind it, the phrase becomes a left operand, and reading takes
  nothing away from the left operand of what is outermost (`Configuration.outerSize_le_of_step`). So
  the connective cannot belong to a longer operand of the same operator.
Main exports: outerSize, Configuration.outerSize_le_of_step, Configuration.size_le_leftSize,
  Tree.root?_cases, Tree.MadeBy, Tree.MadeBy.end_eq
-/
import ModalLanguage.Proofs.TreeReading

namespace ModalLanguage

/-! ### The outermost connective -/

/-- The number of nodes in the left operand of a connective. What is made otherwise has none. -/
def Formula.leftSize : Formula → Nat
  | binary _ left _ => left.size
  | _ => 0

theorem Formula.leftSize_lt_size (f : Formula) : f.leftSize < f.size := by
  cases f <;> simp only [leftSize, size] <;> omega

/-- The number of nodes in the left operand that a frame keeps. -/
def Frame.leftSize : Frame → Nat
  | waiting _ (.binary _ left) => left.size
  | _ => 0

theorem Operator.leftSize_apply (operator : Operator) (token : Token) (f : Formula) :
    (operator.apply f).leftSize = (Frame.waiting token operator).leftSize := by
  cases operator <;> rfl

/-- The number of nodes in the left operand of what is outermost: of the frame that was opened
    first, or of the phrase if nothing is open. -/
def outerSize (frames : List Frame) (phrase? : Option Formula) : Nat :=
  match frames.getLast? with
  | some frame => frame.leftSize
  | none => (phrase?.map Formula.leftSize).getD 0

/-- While something is open, what is opened inside has no say in what is outermost. -/
theorem outerSize_append (inner : List Frame) (frame : Frame) (frames : List Frame)
    (phrase? phrase?' : Option Formula) :
    outerSize (inner ++ frame :: frames) phrase? = outerSize (frame :: frames) phrase?' := by
  rw [outerSize, outerSize, List.getLast?_append_of_ne_nil _ (List.cons_ne_nil _ _),
    List.getLast?_cons]

theorem outerSize_le_of_suffix {frames frames' : List Frame} (inside : frames <:+ frames')
    (phrase? : Option Formula) : outerSize frames none ≤ outerSize frames' phrase? := by
  obtain ⟨inner, rfl⟩ := inside
  cases frames with
  | nil => exact Nat.zero_le _
  | cons frame frames => exact (outerSize_append inner frame frames phrase? none).ge

/-- Completing frames moves what is outermost from its frame into the phrase. -/
theorem outerSize_closeFrames {limit : Limit} {next : Follower} {frames : List Frame} {f : Formula}
    {isSealed : Bool} {phrase : Phrase}
    (closed : closeFrames limit next frames f isSealed = .ok phrase) :
    outerSize phrase.frames (some phrase.formula) = outerSize frames (some f) := by
  fun_induction closeFrames limit next frames f isSealed with
  | case1 token operator frames f isSealed closes allowed ih =>
      rw [ih closed]
      cases frames with
      | nil => exact operator.leftSize_apply token f
      | cons frame frames =>
          exact (outerSize_append [.waiting token operator] frame frames _ _).symm
  | case2 => cases closed
  | case3 | case4 =>
      cases closed
      rfl

/-- A connective takes the whole phrase as its left operand. -/
theorem outerSize_takeFollower {token : Token} {next : Follower} {phrase : Phrase}
    {c : Configuration} (taken : takeFollower token next phrase = some c) :
    outerSize phrase.frames (some phrase.formula) ≤ outerSize c.frames c.phrase? := by
  obtain ⟨frames, f, isSealed⟩ := phrase
  unfold takeFollower at taken
  split at taken
  · split at taken
    · cases taken
    · cases taken
      cases frames with
      | nil => exact f.leftSize_lt_size.le
      | cons frame frames => exact (outerSize_append [_] frame frames _ _).ge
  · rename_i outer opened
    obtain rfl : frames = _ := opened
    cases taken
    cases outer with
    | nil => exact Nat.zero_le _
    | cons frame frames => exact (outerSize_append [_] frame frames _ _).le
  · cases taken

/-- A token that begins an operand opens one frame at most. -/
theorem frames_suffix_of_beginOperand {frames : List Frame} {token : Token} {next : Configuration}
    (begun : beginOperand frames token = some next) : frames <:+ next.frames := by
  unfold beginOperand at begun
  cases kind : token.kind <;> simp only [kind] at begun <;> try cases begun
  case negation =>
    split at begun
    · cases begun
    · cases begun
      exact List.suffix_cons _ _
  case opening => exact List.suffix_cons _ _
  all_goals exact List.suffix_rfl

namespace Configuration

theorem outerSize_le_of_stepPhrase {limit : Limit} {c next : Configuration} {phrase : Formula}
    {token : Token} (taken : c.stepPhrase limit phrase token = .ok next) :
    outerSize c.frames (some phrase) ≤ outerSize next.frames next.phrase? := by
  unfold stepPhrase at taken
  split at taken
  · cases taken
  · split at taken
    · cases taken
    · rename_i closed closes
      rw [← outerSize_closeFrames closes]
      exact outerSize_takeFollower (orRefuse_ok taken)

/-- Where no phrase is complete, a step completes nothing. -/
theorem frames_suffix_of_step {limit : Limit} {c next : Configuration} {token : Token}
    (incomplete : c.phrase? = none) (taken : c.step limit token = .ok next) :
    c.frames <:+ next.frames := by
  obtain ⟨frames, focus⟩ := c
  cases focus with
  | operand => exact frames_suffix_of_beginOperand (orRefuse_ok taken)
  | modality =>
      simp only [step] at taken
      split at taken
      · cases taken
        exact List.suffix_rfl
      · exact (List.suffix_cons _ _).trans (frames_suffix_of_beginOperand (orRefuse_ok taken))
  | subscript | quantifier | «arguments» | separator =>
      simp only [step] at taken
      split at taken
      · cases taken
        exact List.suffix_rfl
      · cases taken
  | agent =>
      simp only [step] at taken
      split at taken
      · split at taken
        · exact (List.suffix_cons _ _).trans (frames_suffix_of_beginOperand (orRefuse_ok taken))
        · cases taken
      · cases taken
  | bound =>
      simp only [step] at taken
      split at taken
      · cases taken
        exact List.suffix_cons _ _
      · exact (List.suffix_cons _ _).trans (frames_suffix_of_beginOperand (orRefuse_ok taken))
  | argument =>
      simp only [step] at taken
      split at taken
      · cases taken
        exact List.suffix_rfl
      · split at taken
        · cases taken
          exact List.suffix_rfl
        · cases taken
  | name | complete => cases incomplete

/-- One step takes nothing away from the left operand of what is outermost. -/
theorem outerSize_le_of_step {limit : Limit} {c next : Configuration} {token : Token}
    (taken : c.step limit token = .ok next) :
    outerSize c.frames c.phrase? ≤ outerSize next.frames next.phrase? := by
  cases reached : c.phrase? with
  | none => exact outerSize_le_of_suffix (frames_suffix_of_step reached taken) _
  | some phrase =>
      obtain ⟨frames, focus⟩ := c
      cases focus with
      | complete phrase =>
          cases reached
          exact outerSize_le_of_stepPhrase taken
      | name name =>
          cases reached
          simp only [step] at taken
          split at taken
          · cases taken
            cases frames with
            | nil => exact Nat.zero_le _
            | cons frame frames => exact (outerSize_append [] frame frames _ _).le
          · exact outerSize_le_of_stepPhrase taken
      | _ => cases reached

/-- So does a whole reading. -/
theorem outerSize_le_of_steps {limit : Limit} {c last : Configuration} {tokens : List Token}
    (read : c.steps limit tokens = .ok last) :
    outerSize c.frames c.phrase? ≤ outerSize last.frames last.phrase? := by
  induction tokens generalizing c with
  | nil =>
      cases read
      exact Nat.le_refl _
  | cons token tokens ih =>
      obtain ⟨next, taken, readRest⟩ := exists_step_of_steps read
      exact (outerSize_le_of_step taken).trans (ih readRest)

theorem settle_ok {limit : Limit} {next : Follower} {c : Configuration} {phrase : Phrase}
    (settled : c.settle limit next = .ok phrase) :
    ∃ f, c.phrase? = some f ∧ closeFrames limit next c.frames f false = .ok phrase := by
  unfold settle at settled
  split at settled
  · rename_i f complete
    exact ⟨f, complete, settled⟩
  · cases settled

/-- A phrase is complete in front of a token, and more is read behind the token: then the phrase, or
    what it became part of, is a left operand. -/
theorem size_le_leftSize {limit : Limit} {start : Configuration} {tokens more : List Token}
    {token : Token} {next next' : Follower} {f f' : Formula} {isSealed isSealed' : Bool}
    (settled : (start.steps limit tokens >>= settle limit next) = .ok ⟨[], f, isSealed⟩)
    (follows : (Lookahead.token token.kind).follower? = some next)
    (settled' : (start.steps limit (tokens ++ token :: more) >>= settle limit next') =
      .ok ⟨[], f', isSealed'⟩) : f.size ≤ f'.leftSize := by
  obtain ⟨c, read, settledAt⟩ := bind_eq_ok settled
  obtain ⟨last, readMore, settledLast⟩ := bind_eq_ok settled'
  rw [steps_append, read, ok_bind] at readMore
  obtain ⟨behind, taken, readRest⟩ := exists_step_of_steps readMore
  obtain ⟨phrase, complete, -⟩ := settle_ok settledAt
  rw [step_eq_settle follows (by rw [complete]; rfl), settledAt, ok_bind] at taken
  obtain ⟨phrase', complete', closes'⟩ := settle_ok settledLast
  have grows := outerSize_le_of_steps readRest
  rw [complete', ← outerSize_closeFrames closes'] at grows
  -- Nothing is open around the phrase, so neither a closing bracket nor a second biconditional
  -- could have been taken.
  cases next with
  | connective op =>
      cases isSealed with
      | true => cases taken
      | false =>
          cases taken
          exact grows
  | closing => cases taken
  | ending => cases taken

end Configuration

/-- Of two parts at one place, each complete behind the same start, the one that ends in front of a
    follower is not the shorter one, unless it is a left operand in the other. -/
theorem length_le_of_settled {limit : Limit} {start : Configuration}
    {tokens part part' : List Token} {place : Nat} {next next' : Follower} {f f' : Formula}
    {isSealed isSealed' : Bool}
    (stands : Stands part tokens place) (stands' : Stands part' tokens place)
    (ahead : aheadAt tokens (place + part.length) = next.ahead)
    (settled : (start.steps limit part >>= Configuration.settle limit next) =
      .ok ⟨[], f, isSealed⟩)
    (settled' : (start.steps limit part' >>= Configuration.settle limit next') =
      .ok ⟨[], f', isSealed'⟩)
    (notInside : f'.leftSize < f.size) : part'.length ≤ part.length := by
  rcases List.prefix_or_prefix_of_prefix stands' stands with shorter | longer
  · exact shorter.length_le
  · obtain ⟨more, rfl⟩ := longer
    cases more with
    | nil => rw [List.append_nil]
    | cons token more =>
        have there := (stands_cons.1 (stands_append.1 stands').2).1
        rw [aheadAt_eq_token there] at ahead
        have follows := Lookahead.follower?_eq_some_iff.2 ahead
        exact absurd (Configuration.size_le_leftSize settled follows settled')
          (Nat.not_le.2 notInside)

namespace Tree

/-! ### The operator of a tree -/

/-- The operator of a tree stands in front of its only operand, or it is a connective between
    two. -/
theorem root?_cases {s : Stratum} {t : Tree s} {operator : Token}
    (root : t.root? = some operator) :
    (operator.kind.connective? = none ∧ t.formula.leftSize = 0 ∧
        ∃ rest, t.tokens = operator :: rest) ∨
      ∃ (op : Connective) (left : Tree op.left) (isOp : operator.kind = op.kind)
        (right : Tree op.right),
        Alike (binary op left operator isOp right) t ∧ s.level ≤ op.stratum.level := by
  induction t with
  | whole body ih =>
      rcases ih root with first | ⟨op, left, isOp, right, alike, level⟩
      · exact .inl first
      · refine .inr ⟨op, left, isOp, right, ?_, (Nat.zero_le _).trans level⟩
        exact alike.trans ⟨rfl, rfl, rfl, rfl, fun _ => Iff.rfl⟩
  | ofImplication body ih | ofDisjunction body ih | ofConjunction body ih | ofUnary body ih
  | ofTight body ih =>
      have single := body.isBiconditional_eq_false (by decide)
      rcases ih root with first | ⟨op, left, isOp, right, alike, level⟩
      · exact .inl first
      · refine .inr ⟨op, left, isOp, right, ?_, (Nat.le_succ _).trans level⟩
        exact alike.trans ⟨rfl, rfl, rfl, single.symm, fun _ => Iff.rfl⟩
  | biconditional left op isOp right =>
      cases root
      exact .inr ⟨.biconditional, left, isOp, right, Alike.refl _, Nat.le_refl _⟩
  | implication left op isOp right =>
      cases root
      exact .inr ⟨.implication, left, isOp, right, Alike.refl _, Nat.le_refl _⟩
  | disjunction left op isOp right =>
      cases root
      exact .inr ⟨.disjunction, left, isOp, right, Alike.refl _, Nat.le_refl _⟩
  | conjunction left op isOp right =>
      cases root
      exact .inr ⟨.conjunction, left, isOp, right, Alike.refl _, Nat.le_refl _⟩
  | negation op isOp operand =>
      cases root
      exact .inl ⟨by rw [isOp]; rfl, rfl, _, rfl⟩
  | modal modality op isOp operand | indexed modality op isOp =>
      cases root
      exact .inl ⟨by rw [isOp]; cases modality <;> rfl, rfl, _, rfl⟩
  | wide quantifier op isOp | narrow quantifier op isOp =>
      cases root
      exact .inl ⟨by rw [isOp]; cases quantifier <;> rfl, rfl, _, rfl⟩
  | predicate | atom | constant | bracketed => cases root

theorem first_of_root? {s : Stratum} {t : Tree s} {operator : Token}
    (root : t.root? = some operator) (isFirst : operator.kind.connective? = none) :
    t.formula.leftSize = 0 ∧ ∃ rest, t.tokens = operator :: rest := by
  rcases root?_cases root with ⟨-, first⟩ | ⟨op, left, isOp, right, alike, level⟩
  · exact first
  · rw [isOp, op.connective?_kind] at isFirst
    cases isFirst

theorem exists_binary_of_root? {s : Stratum} {t : Tree s} {operator : Token} {op : Connective}
    (root : t.root? = some operator) (isOp : operator.kind = op.kind) :
    ∃ (left : Tree op.left) (right : Tree op.right),
      Alike (binary op left operator isOp right) t ∧ s.level ≤ op.stratum.level := by
  have isConnective := congrArg Kind.connective? isOp
  rw [op.connective?_kind] at isConnective
  rcases root?_cases root with ⟨isFirst, -⟩ | ⟨op', left, isOp', right, alike, level⟩
  · rw [isFirst] at isConnective
    cases isConnective
  · rw [isOp', op'.connective?_kind] at isConnective
    cases isConnective
    exact ⟨left, right, alike, level⟩

/-! ### The last operand -/

/-- What is read of a phrase that stands where it can be taken, when nothing is too deep. -/
theorem Placed.settled {s : Stratum} {t : Tree s} {limit : Limit} {frames : List Frame}
    {next : Follower} {phrase : Phrase} (placed : t.Placed frames next)
    (within : t.formula.nesting ≤ limit.nesting)
    (closes : closeFrames limit next frames t.formula t.isBiconditional = .ok phrase) :
    ((⟨frames, .operand⟩ : Configuration).steps limit t.tokens >>=
      Configuration.settle limit next) = .ok phrase := by
  have settles : t.Settles limit frames next := t.settles placed
  unfold Tree.Settles ModalLanguage.Settles at settles
  rw [settles, (t.checkOperators_eq_ok_iff limit).2 within, ok_bind, closes]

/-- The right operand of a connective is read as one of the connective, whatever is on its left. -/
theorem Placed.settled_right {op : Connective} {left : Tree op.left} {token : Token}
    {isOp : token.kind = op.kind} {right : Tree op.right} {limit : Limit} {next : Follower}
    (placed : (binary op left token isOp right).Placed [] next) (f : Formula)
    (within : (Formula.binary op f right.formula).nesting ≤ limit.nesting) :
    ((⟨[.waiting token (.binary op f)], .operand⟩ : Configuration).steps limit right.tokens >>=
      Configuration.settle limit next) =
        .ok ⟨[], .binary op f right.formula, (Operator.binary op f).seals⟩ := by
  refine (placed.right f []).settled ((Formula.nesting_right_le _ _ _).trans within) ?_
  have closes : (Operator.binary op f).closedBy next false = true :=
    (precedes_binary_iff op left token isOp right next).1 placed.precedes
  have allowed : limit.allows (.binary op f right.formula) = true := decide_eq_true within
  rw [right.isBiconditional_eq_false op.two_le_right, closeFrames, if_pos closes]
  exact if_pos allowed

/-- An operator with all its operands, at a place of a list of tokens. No operator stands behind its
    last operand, so this ends where the operand does, a bracket around the operand included. What
    stands behind cannot be part of it: a connective there groups less tightly than the operator,
    and no quantifier with a dot inside could reach further. -/
structure MadeBy {s : Stratum} (operator : Token) (node : Tree s) (tokens : List Token)
    (start : Nat) : Prop where
  root : node.root? = some operator
  known : node.agentsKnown = true
  stands : Stands node.tokens tokens start
  ends : ∃ next : Follower, aheadAt tokens (start + node.tokens.length) = next.ahead ∧
    node.Precedes next ∧ node.Widest next.ahead

section MadeBy

variable {s s' : Stratum} {operator : Token} {node : Tree s} {node' : Tree s'}
  {tokens : List Token} {start start' : Nat}

theorem MadeBy.exists_placed (made : node.MadeBy operator tokens start) :
    ∃ next : Follower, aheadAt tokens (start + node.tokens.length) = next.ahead ∧
      node.Placed [] next := by
  obtain ⟨next, ahead, precedes, widest⟩ := made.ends
  exact ⟨next, ahead, Nat.zero_le _, made.known, precedes, widest⟩

/-- Two phrases that one operator in front of its operand makes, at one place: neither is longer. -/
theorem length_le_of_first {place : Nat} {next next' : Follower}
    (stands : Stands node.tokens tokens place) (stands' : Stands node'.tokens tokens place)
    (ahead : aheadAt tokens (place + node.tokens.length) = next.ahead)
    (placed : node.Placed [] next) (placed' : node'.Placed [] next')
    (noLeft : node'.formula.leftSize = 0) : node'.tokens.length ≤ node.tokens.length := by
  obtain ⟨limit, within, within'⟩ := Limit.exists_within node.formula node'.formula
  refine length_le_of_settled stands stands' ahead (placed.settled within rfl)
    (placed'.settled within' rfl) ?_
  rw [noLeft]
  exact node.formula.one_le_size

/-- Two right operands of one connective, at one place: neither is longer. -/
theorem length_le_of_right {op : Connective} {left left' : Tree op.left}
    {right right' : Tree op.right} {isOp : operator.kind = op.kind} {place : Nat} {next next' : Follower}
    (stands : Stands right.tokens tokens place) (stands' : Stands right'.tokens tokens place)
    (ahead : aheadAt tokens (place + right.tokens.length) = next.ahead)
    (placed : (binary op left operator isOp right).Placed [] next)
    (placed' : (binary op left' operator isOp right').Placed [] next') :
    right'.tokens.length ≤ right.tokens.length := by
  -- What stands on the left has no say in it, so it is taken to be the same.
  obtain ⟨limit, within, within'⟩ := Limit.exists_within
    (.binary op left.formula right.formula) (.binary op left.formula right'.formula)
  exact length_le_of_settled stands stands' ahead (placed.settled_right _ within)
    (placed'.settled_right _ within')
    (Formula.leftSize_lt_size (.binary op left.formula right.formula))

/-- An operator that stands at one place only does not end later in one derivation than in
    another. -/
theorem MadeBy.end_le (made : node.MadeBy operator tokens start)
    (made' : node'.MadeBy operator tokens start')
    (single : ∀ place place' : Nat, tokens[place]? = some operator →
      tokens[place']? = some operator → place = place') :
    start' + node'.tokens.length ≤ start + node.tokens.length := by
  obtain ⟨next, ahead, placed⟩ := made.exists_placed
  obtain ⟨next', -, placed'⟩ := made'.exists_placed
  have stands := made.stands
  have stands' := made'.stands
  rcases root?_cases made.root with
    ⟨isFirst, -, rest, tokens_eq⟩ | ⟨op, left, isOp, right, alike, level⟩
  · obtain ⟨noLeft, rest', tokens_eq'⟩ := first_of_root? made'.root isFirst
    have there := stands
    have there' := stands'
    rw [tokens_eq, stands_cons] at there
    rw [tokens_eq', stands_cons] at there'
    obtain rfl := single start start' there.1 there'.1
    exact Nat.add_le_add_left (length_le_of_first stands stands' ahead placed placed' noLeft) _
  · obtain ⟨left', right', alike', level'⟩ := exists_binary_of_root? made'.root isOp
    rw [alike.tokens, tokens_binary] at stands ahead ⊢
    rw [alike'.tokens, tokens_binary] at stands' ⊢
    rw [stands_append, stands_cons] at stands stands'
    have place_eq := single _ _ stands.2.1 stands'.2.1
    rw [← place_eq] at stands'
    simp only [List.length_append, List.length_cons] at ahead ⊢
    have behind : start + (left.tokens.length + (right.tokens.length + 1)) =
        start + left.tokens.length + 1 + right.tokens.length := by omega
    rw [behind] at ahead
    have notLonger := length_le_of_right stands.2.2 stands'.2.2 ahead (alike.placed level placed)
      (alike'.placed level' placed')
    omega

/-- Where an operator ends that stands at one place only is the same in all derivations. -/
theorem MadeBy.end_eq (made : node.MadeBy operator tokens start)
    (made' : node'.MadeBy operator tokens start')
    (single : ∀ place place' : Nat, tokens[place]? = some operator →
      tokens[place']? = some operator → place = place') :
    start + node.tokens.length = start' + node'.tokens.length :=
  Nat.le_antisymm (made'.end_le made single) (made.end_le made' single)

/-- The operator stands among the tokens. -/
theorem MadeBy.exists_place (made : node.MadeBy operator tokens start) :
    ∃ place : Nat, tokens[place]? = some operator := by
  have stands := made.stands
  rcases root?_cases made.root with
    ⟨-, -, rest, tokens_eq⟩ | ⟨op, left, isOp, right, alike, -⟩
  · rw [tokens_eq, stands_cons] at stands
    exact ⟨_, stands.1⟩
  · rw [alike.tokens, tokens_binary, stands_append, stands_cons] at stands
    exact ⟨_, stands.2.1⟩

end MadeBy

end Tree

end ModalLanguage
