/-
Module: ModalLanguage.Proofs.FarthestScope
Purpose: Quantifiers with a dot take the widest possible scope. Where a body is followed by what it
  cannot go on with, no derivation of the same tokens has a longer one at the same place: a closing
  bracket has no partner inside it, and a second biconditional finds none free. So a derivation in
  which no quantifier could reach further reaches farthest at all of them together, and the other
  way around; all such derivations mean one formula, the one that parsing returns.
Main exports: Tree.Farthest, Tree.farthest_of_widest, Tree.widest_of_farthest,
  Parser.dotted_scope_is_farthest
-/
import ModalLanguage.Proofs.Recognition
import ModalLanguage.Proofs.TreeReading

namespace ModalLanguage

/-! ### A body that cannot go on -/

/-- A body runs from the outline of a text that begins with it. -/
theorem exists_runs_start (body : Tree .formula) : ∃ last, Outline.start.Runs body last :=
  body.exists_runs ⟨.inl rfl, fun _ => Nat.le_refl 1⟩

/-- Behind a widest body, no formula goes on with what the body closes before. -/
theorem step_eq_none_of_closesBefore {body : Tree .formula} {last : Outline} {kind : Kind}
    (runs : Outline.start.Runs body last) (closes : body.ClosesBefore (.token kind))
    (widest : body.Widest (.token kind)) : last.step kind = none := by
  rcases closes with ending | closing | ⟨isBiconditional, both⟩
  · cases ending
  · cases closing
    rw [runs.phrase.step (by decide), Outline.follow, Outline.close, runs.outer]
    rfl
  · cases isBiconditional
    -- The body has taken the only biconditional that was free.
    have exactly := runs.exactly .biconditional widest
    rw [Tree.taken, both] at exactly
    have noneFree : last.free = 0 := (Nat.succ.inj exactly).symm
    rw [runs.phrase.step (by decide), Outline.follow, Outline.takeBiconditional, noneFree]

/-- No body at the same place of a list of tokens is longer than one that is widest there. -/
theorem length_le_of_closesBefore {body other : Tree .formula} {tokens : List Token} {place : Nat}
    (stands : Stands body.tokens tokens place) (standsOther : Stands other.tokens tokens place)
    (closes : body.ClosesBefore (aheadAt tokens (place + body.tokens.length)))
    (widest : body.Widest (aheadAt tokens (place + body.tokens.length))) :
    other.tokens.length ≤ body.tokens.length := by
  rcases List.prefix_or_prefix_of_prefix standsOther stands with shorter | longer
  · exact shorter.length_le
  · obtain ⟨more, tokens_eq⟩ := longer
    cases more with
    | nil => simp [← tokens_eq]
    | cons token more =>
        exfalso
        rw [← tokens_eq, stands_append, stands_cons] at standsOther
        rw [aheadAt_eq_token standsOther.2.1] at closes widest
        obtain ⟨last, runs⟩ := exists_runs_start body
        obtain ⟨lastOther, runsOther⟩ := exists_runs_start other
        have reached := runsOther.run
        rw [← tokens_eq, List.map_append, Outline.run_append, runs.run, Option.bind_some,
          List.map_cons, Outline.run_cons,
          step_eq_none_of_closesBefore runs closes widest] at reached
        cases reached

/-- Two bodies of the same tokens are both biconditionals or neither, if one is widest in front of a
    biconditional. -/
theorem isBiconditional_of_tokens_eq {body other : Tree .formula}
    (tokens_eq : other.tokens = body.tokens) (both : body.isBiconditional = true)
    (widest : body.Widest (.token .biconditional)) : other.isBiconditional = true := by
  obtain ⟨last, runs⟩ := exists_runs_start body
  obtain ⟨lastOther, runsOther⟩ := exists_runs_start other
  have same : last = lastOther := by
    have reached := runsOther.run
    rw [tokens_eq, runs.run] at reached
    exact Option.some.inj reached
  have exactly := runs.exactly .biconditional widest
  have free := runsOther.free
  rw [Tree.taken, both, same] at exactly
  cases single : other.isBiconditional with
  | true => rfl
  | false =>
      rw [Tree.taken_eq_zero single] at free
      simp only [if_true] at exactly
      omega

namespace Tree

/-! ### The scopes of a derivation -/

/-- The scopes inside the body of a scope are scopes too. -/
theorem mem_scopes_of_mem_body {s : Stratum} (t : Tree s) {place : Nat}
    {outer inner : Nat × Tree .formula} (isOuter : outer ∈ t.scopes place)
    (isInner : inner ∈ outer.2.scopes (outer.1 + 3)) : inner ∈ t.scopes place := by
  induction t generalizing place with
  | whole body ih | ofImplication body ih | ofDisjunction body ih | ofConjunction body ih
  | ofUnary body ih | ofTight body ih => exact ih isOuter
  | biconditional left op isOp right ihLeft ihRight
  | implication left op isOp right ihLeft ihRight
  | disjunction left op isOp right ihLeft ihRight
  | conjunction left op isOp right ihLeft ihRight =>
      rcases List.mem_append.1 isOuter with inLeft | inRight
      · exact List.mem_append_left _ (ihLeft inLeft)
      · exact List.mem_append_right _ (ihRight inRight)
  | negation op isOp operand ih | modal modality op isOp operand ih
  | indexed modality op isOp mark isMark name isName operand ih
  | narrow quantifier op isOp bound isBound operand ih => exact ih isOuter
  | wide quantifier op isOp bound isBound dot isDot body ih =>
      rcases List.mem_cons.1 isOuter with rfl | inBody
      · exact List.mem_cons_of_mem _ isInner
      · exact List.mem_cons_of_mem _ (ih inBody)
  | predicate | atom | constant => cases isOuter
  | bracketed opening isOpening body closing isClosing ih => exact ih isOuter

/-- A whole derivation is widest when no scope in it could reach further. -/
theorem widest_ending_iff (t : Tree .formula) :
    t.Widest .ending ↔ ∀ scope ∈ t.scopes 0,
      scope.2.ClosesBefore (aheadAt t.tokens (scope.1 + 3 + scope.2.tokens.length)) := by
  have atEnd : aheadAt t.tokens t.tokens.length = .ending := by simp [aheadAt]
  rw [← atEnd]
  exact t.widest_iff_scopes (stands_self t.tokens) (Nat.zero_add _)

/-- In a widest derivation the body of every scope is widest in front of what follows it. -/
theorem widest_of_mem_scopes {t : Tree .formula} (widest : t.Widest .ending)
    {scope : Nat × Tree .formula} (member : scope ∈ t.scopes 0) :
    scope.2.Widest (aheadAt t.tokens (scope.1 + 3 + scope.2.tokens.length)) := by
  have stands := t.scopes_stand (stands_self t.tokens) scope member
  rw [scope.2.widest_iff_scopes stands rfl]
  intro inner isInner
  exact t.widest_ending_iff.1 widest inner (t.mem_scopes_of_mem_body member isInner)

/-- Derivations of the same tokens have their scopes at the same places. -/
theorem exists_mem_scopes {t other : Tree .formula} (tokens_eq : other.tokens = t.tokens)
    {scope : Nat × Tree .formula} (member : scope ∈ t.scopes 0) :
    ∃ body, (scope.1, body) ∈ other.scopes 0 := by
  have places : (other.scopes 0).map (fun scope => scope.1 + 2) =
      (t.scopes 0).map (fun scope => scope.1 + 2) := by
    rw [scopes_places, scopes_places, tokens_eq]
  have there : scope.1 + 2 ∈ (t.scopes 0).map (fun scope => scope.1 + 2) :=
    List.mem_map_of_mem member
  rw [← places] at there
  obtain ⟨⟨place, body⟩, isOther, place_eq⟩ := List.mem_map.1 there
  obtain rfl : place = scope.1 := Nat.add_right_cancel place_eq
  exact ⟨body, isOther⟩

/-- No derivation of the same tokens has, at the place of any quantifier, a body that ends later. -/
def Farthest (t : Tree .formula) : Prop :=
  ∀ other : Tree .formula, other.tokens = t.tokens → ∀ place finish finish' : Nat,
    (place, finish) ∈ t.wideBodies 0 → (place, finish') ∈ other.wideBodies 0 → finish' ≤ finish

theorem mem_wideBodies {t : Tree .formula} {place finish : Nat} :
    (place, finish) ∈ t.wideBodies 0 ↔
      ∃ body, (place, body) ∈ t.scopes 0 ∧ place + 3 + body.tokens.length = finish := by
  rw [wideBodies_eq, List.mem_map]
  constructor
  · rintro ⟨⟨place', body⟩, member, same⟩
    cases same
    exact ⟨body, member, rfl⟩
  · rintro ⟨body, member, rfl⟩
    exact ⟨(place, body), member, rfl⟩

/-- Where no scope could reach further, every scope reaches farthest. -/
theorem farthest_of_widest {t : Tree .formula} (widest : t.Widest .ending) : t.Farthest := by
  intro other tokens_eq place finish finish' mine its
  obtain ⟨body, member, rfl⟩ := mem_wideBodies.1 mine
  obtain ⟨body', member', rfl⟩ := mem_wideBodies.1 its
  have stands := t.scopes_stand (stands_self t.tokens) _ member
  have stands' := other.scopes_stand (stands_self other.tokens) _ member'
  rw [tokens_eq] at stands'
  have closes := t.widest_ending_iff.1 widest _ member
  have inside := widest_of_mem_scopes widest member
  exact Nat.add_le_add_left (length_le_of_closesBefore stands stands' closes inside) _

/-- Where every scope reaches farthest, no scope could reach further. -/
theorem widest_of_farthest {t other : Tree .formula} (widest : t.Widest .ending)
    (tokens_eq : other.tokens = t.tokens) (farthest : other.Farthest) : other.Widest .ending := by
  rw [widest_ending_iff, tokens_eq]
  rintro ⟨place, body'⟩ member'
  obtain ⟨body, member⟩ := exists_mem_scopes tokens_eq.symm member'
  have mine := mem_wideBodies.2 ⟨body, member, rfl⟩
  have its := mem_wideBodies.2 ⟨body', member', rfl⟩
  have notShorter := farthest t tokens_eq.symm _ _ _ its mine
  have notLonger := farthest_of_widest widest other tokens_eq _ _ _ mine its
  have length_eq : body'.tokens.length = body.tokens.length := by omega
  have stands := t.scopes_stand (stands_self t.tokens) _ member
  have stands' := other.scopes_stand (stands_self other.tokens) _ member'
  rw [tokens_eq] at stands'
  have same : body'.tokens = body.tokens :=
    (List.prefix_of_prefix_length_le stands' stands length_eq.le).eq_of_length length_eq
  have closes := t.widest_ending_iff.1 widest _ member
  have inside := widest_of_mem_scopes widest member
  change body'.ClosesBefore (aheadAt t.tokens (place + 3 + body'.tokens.length))
  rw [same]
  rcases closes with ending | closing | ⟨isBiconditional, both⟩
  · exact .inl ending
  · exact .inr (.inl closing)
  · rw [isBiconditional] at inside
    exact .inr (.inr ⟨isBiconditional, isBiconditional_of_tokens_eq same both inside⟩)

end Tree

namespace Parser

/-- Quantifiers with a dot take the widest possible scope. The formula that is returned is that of a
    derivation which has every quantifier with a dot of the text as a scope, and in which the body
    of each is followed by the end, by a closing bracket, or by a biconditional, the last only if
    the body is one itself. In no other derivation does any of the bodies end later; and every other
    derivation of which this is true has the same formula. -/
theorem dotted_scope_is_farthest (p : Parser) (text : String) (f : Formula)
    (parsed : p.parse text = .ok f) :
    ∃ tree : Tree .formula, tree.tokens = (tokenize text).tokens ∧ tree.agentsKnown = true ∧
      tree.formula = f ∧
      (∀ place, aheadAt tree.tokens (place + 2) = .token .dot →
        ∃ body, (place, body) ∈ tree.scopes 0) ∧
      (∀ scope ∈ tree.scopes 0,
        scope.2.ClosesBefore (aheadAt tree.tokens (scope.1 + 3 + scope.2.tokens.length))) ∧
      tree.Farthest ∧
      ∀ other : Tree .formula, other.tokens = tree.tokens → other.Farthest →
        other.formula = f := by
  obtain ⟨tree, tokens_eq, known, widest, formula_eq⟩ := exists_widest_tree parsed
  refine ⟨tree, tokens_eq, known, formula_eq, ?_, tree.widest_ending_iff.1 widest,
    Tree.farthest_of_widest widest, ?_⟩
  · intro place isDot
    rw [← mem_dotPlaces, ← Tree.scopes_places] at isDot
    obtain ⟨⟨place', body⟩, member, place_eq⟩ := List.mem_map.1 isDot
    obtain rfl : place' = place := Nat.add_right_cancel place_eq
    exact ⟨body, member⟩
  · intro other same farthest
    have widestOther := Tree.widest_of_farthest widest same farthest
    rw [← formula_eq]
    exact (Tree.formula_eq_of_widest same.symm known widest widestOther).symm

/-- Two quantifiers one inside the other, the inner one with a biconditional in its scope. -/
theorem dotted_scope_nested :
    ∃ tree : Tree .formula, tree.tokens = (tokenize "A x. p & E y. q <-> r").tokens ∧
      tree.formula = .quantified .universal "x" (.binary .conjunction (.atom "p")
        (.quantified .existential "y" (.binary .biconditional (.atom "q") (.atom "r")))) ∧
      tree.Farthest := by
  have parsed : standard.parse "A x. p & E y. q <-> r" =
      .ok (.quantified .universal "x" (.binary .conjunction (.atom "p")
        (.quantified .existential "y" (.binary .biconditional (.atom "q") (.atom "r"))))) := by
    decide +kernel
  obtain ⟨tree, tokens_eq, -, formula_eq, -, -, farthest, -⟩ :=
    dotted_scope_is_farthest standard _ _ parsed
  exact ⟨tree, tokens_eq, formula_eq, farthest⟩

end Parser

end ModalLanguage
