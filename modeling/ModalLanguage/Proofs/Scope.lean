/-
Module: ModalLanguage.Proofs.Scope
Purpose: How far the quantifiers with a dot reach in a derivation. `Tree.scopes` lists them with
  their bodies. A derivation is widest when every such body runs on to the end of the text, to a
  closing bracket, or to a biconditional that it cannot take because it is one itself. This is said
  twice: by recursion on the tree with the lookahead behind it (`Tree.Widest`), and by the token
  that stands behind each body in the whole list of tokens. `Tree.widest_iff_scopes` says that the
  two agree.
Main exports: Tree.isBiconditional, Tree.ClosesBefore, Tree.Widest, Tree.scopes, aheadAt, Stands,
  Tree.widest_iff_scopes, Tree.wideBodies_eq, Tree.scopes_places
-/
import ModalLanguage.Grammar
import ModalLanguage.Parser.Lookahead

namespace ModalLanguage

namespace Tree

/-- Whether a tree is a biconditional that stands in no bracket. -/
def isBiconditional : {s : Stratum} → Tree s → Bool
  | _, whole body => body.isBiconditional
  | _, biconditional _ _ _ _ => true
  | _, _ => false

/-- Whether the body of a quantifier with a dot cannot go on at a lookahead: at the end, at a
    closing bracket, and at a biconditional if the body is one. -/
def ClosesBefore (body : Tree .formula) (ahead : Lookahead) : Prop :=
  ahead = .ending ∨ ahead = .token .closing ∨
    ahead = .token .biconditional ∧ body.isBiconditional = true

/-- No quantifier with a dot could take more than it does when a lookahead stands behind the
    tree. -/
def Widest : {s : Stratum} → Tree s → Lookahead → Prop
  | _, whole body, ahead => body.Widest ahead
  | _, biconditional left op _ right, ahead => left.Widest (.token op.kind) ∧ right.Widest ahead
  | _, ofImplication body, ahead => body.Widest ahead
  | _, implication left op _ right, ahead => left.Widest (.token op.kind) ∧ right.Widest ahead
  | _, ofDisjunction body, ahead => body.Widest ahead
  | _, disjunction left op _ right, ahead => left.Widest (.token op.kind) ∧ right.Widest ahead
  | _, ofConjunction body, ahead => body.Widest ahead
  | _, conjunction left op _ right, ahead => left.Widest (.token op.kind) ∧ right.Widest ahead
  | _, ofUnary body, ahead => body.Widest ahead
  | _, negation _ _ operand, ahead => operand.Widest ahead
  | _, ofTight body, ahead => body.Widest ahead
  | _, modal _ _ _ operand, ahead => operand.Widest ahead
  | _, indexed _ _ _ _ _ _ _ operand, ahead => operand.Widest ahead
  | _, wide _ _ _ _ _ _ _ body, ahead => body.ClosesBefore ahead ∧ body.Widest ahead
  | _, narrow _ _ _ _ _ body, ahead => body.Widest ahead
  | _, predicate _ _ _ _ _ _ _ _ _ _, _ => True
  | _, atom _ _, _ => True
  | _, constant _ _ _, _ => True
  | _, bracketed _ _ body closing _, _ => body.Widest (.token closing.kind)

/-- The quantifiers with a dot, each by the place of its token and its body, when the tree begins at
    a given place of a list of tokens. -/
def scopes : {s : Stratum} → Tree s → (place : Nat) → List (Nat × Tree .formula)
  | _, whole body, place => body.scopes place
  | _, biconditional left _ _ right, place =>
    left.scopes place ++ right.scopes (place + left.tokens.length + 1)
  | _, ofImplication body, place => body.scopes place
  | _, implication left _ _ right, place =>
    left.scopes place ++ right.scopes (place + left.tokens.length + 1)
  | _, ofDisjunction body, place => body.scopes place
  | _, disjunction left _ _ right, place =>
    left.scopes place ++ right.scopes (place + left.tokens.length + 1)
  | _, ofConjunction body, place => body.scopes place
  | _, conjunction left _ _ right, place =>
    left.scopes place ++ right.scopes (place + left.tokens.length + 1)
  | _, ofUnary body, place => body.scopes place
  | _, negation _ _ operand, place => operand.scopes (place + 1)
  | _, ofTight body, place => body.scopes place
  | _, modal _ _ _ operand, place => operand.scopes (place + 1)
  | _, indexed _ _ _ _ _ _ _ operand, place => operand.scopes (place + 3)
  | _, wide _ _ _ _ _ _ _ body, place => (place, body) :: body.scopes (place + 3)
  | _, narrow _ _ _ _ _ body, place => body.scopes (place + 2)
  | _, predicate _ _ _ _ _ _ _ _ _ _, _ => []
  | _, atom _ _, _ => []
  | _, constant _ _ _, _ => []
  | _, bracketed _ _ body _ _, place => body.scopes (place + 1)

/-- The ends of the scopes are those that `wideBodies` tells. -/
theorem wideBodies_eq {s : Stratum} (t : Tree s) (place : Nat) :
    t.wideBodies place =
      (t.scopes place).map fun scope => (scope.1, scope.1 + 3 + scope.2.tokens.length) := by
  induction t generalizing place <;> simp_all [wideBodies, scopes]

end Tree

/-! ### Places in a list of tokens -/

/-- The lookahead at a place of a list of tokens. -/
def aheadAt (tokens : List Token) (place : Nat) : Lookahead :=
  match tokens[place]? with
  | some token => .token token.kind
  | none => .ending

theorem aheadAt_eq_token {tokens : List Token} {place : Nat} {token : Token}
    (found : tokens[place]? = some token) : aheadAt tokens place = .token token.kind := by
  simp [aheadAt, found]

/-- A part stands in a list of tokens at a place. -/
def Stands (part tokens : List Token) (place : Nat) : Prop :=
  part <+: tokens.drop place

theorem stands_self (tokens : List Token) : Stands tokens tokens 0 := by
  simp [Stands]

theorem stands_cons {token : Token} {part tokens : List Token} {place : Nat} :
    Stands (token :: part) tokens place ↔
      tokens[place]? = some token ∧ Stands part tokens (place + 1) := by
  unfold Stands
  rw [← List.drop_drop, ← List.head?_drop]
  cases tokens.drop place with
  | nil => simp
  | cons first rest => simp [List.cons_prefix_cons, eq_comm]

theorem stands_append {first second tokens : List Token} {place : Nat} :
    Stands (first ++ second) tokens place ↔
      Stands first tokens place ∧ Stands second tokens (place + first.length) := by
  induction first generalizing place with
  | nil => simp [Stands]
  | cons token first ih =>
      rw [List.cons_append, stands_cons, stands_cons, ih, List.length_cons, and_assoc,
        Nat.add_assoc, Nat.add_comm 1]

/-- The places of the dots in a list of tokens that begins at a given place. -/
def dotPlaces (tokens : List Token) (place : Nat) : List Nat :=
  ((tokens.zipIdx place).filter fun entry => entry.1.kind = .dot).map Prod.snd

@[simp] theorem dotPlaces_nil (place : Nat) : dotPlaces [] place = [] := rfl

@[simp] theorem dotPlaces_cons (token : Token) (rest : List Token) (place : Nat) :
    dotPlaces (token :: rest) place =
      if token.kind = .dot then place :: dotPlaces rest (place + 1)
      else dotPlaces rest (place + 1) := by
  by_cases isDot : token.kind = .dot <;> simp [dotPlaces, isDot]

theorem dotPlaces_append (first second : List Token) (place : Nat) :
    dotPlaces (first ++ second) place =
      dotPlaces first place ++ dotPlaces second (place + first.length) := by
  simp [dotPlaces, List.zipIdx_append]

theorem mem_dotPlaces {tokens : List Token} {place : Nat} :
    place ∈ dotPlaces tokens 0 ↔ aheadAt tokens place = .token .dot := by
  simp only [dotPlaces, List.mem_map, List.mem_filter, Prod.exists, exists_eq_right, aheadAt,
    List.mk_mem_zipIdx_iff_getElem?, decide_eq_true_eq]
  cases tokens[place]? <;> simp

/-! ### Arguments -/

/-- The tokens that the arguments of a predicate behind the first one are written with. -/
def pairTokens (pairs : List (Token × Token)) : List Token :=
  pairs.flatMap fun pair => [pair.1, pair.2]

/-- Each pair is a comma and the name behind it. -/
def ArePairs (pairs : List (Token × Token)) : Prop :=
  ∀ pair ∈ pairs, pair.1.kind = .comma ∧ pair.2.kind = .letter

theorem dotPlaces_pairTokens {pairs : List (Token × Token)} (arePairs : ArePairs pairs)
    (place : Nat) : dotPlaces (pairTokens pairs) place = [] := by
  induction pairs generalizing place with
  | nil => rfl
  | cons pair pairs ih =>
      obtain ⟨isPair, areRest⟩ := List.forall_mem_cons.1 arePairs
      have rest := ih areRest (place + 1 + 1)
      simpa [pairTokens, isPair.1, isPair.2] using rest

/-! ### Scopes in the list of tokens -/

namespace Tree

/-- The body of every scope stands behind its quantifier, the bound name and the dot. -/
theorem scopes_stand {s : Stratum} (t : Tree s) {tokens : List Token} {place : Nat}
    (stands : Stands t.tokens tokens place) :
    ∀ scope ∈ t.scopes place, Stands scope.2.tokens tokens (scope.1 + 3) := by
  induction t generalizing place with
  | whole body ih | ofImplication body ih | ofDisjunction body ih | ofConjunction body ih
  | ofUnary body ih | ofTight body ih => exact ih stands
  | biconditional left op isOp right ihLeft ihRight
  | implication left op isOp right ihLeft ihRight
  | disjunction left op isOp right ihLeft ihRight
  | conjunction left op isOp right ihLeft ihRight =>
      obtain ⟨standsLeft, standsOp⟩ := stands_append.1 stands
      intro scope member
      rcases List.mem_append.1 member with inLeft | inRight
      · exact ihLeft standsLeft scope inLeft
      · exact ihRight (stands_cons.1 standsOp).2 scope inRight
  | negation op isOp operand ih | modal modality op isOp operand ih =>
      exact ih (stands_cons.1 stands).2
  | indexed modality op isOp mark isMark agent isAgent operand ih =>
      simp only [Tree.tokens, stands_cons] at stands
      exact ih stands.2.2.2
  | wide quantifier op isOp bound isBound dot isDot body ih =>
      simp only [Tree.tokens, stands_cons] at stands
      intro scope member
      rcases List.mem_cons.1 member with rfl | inBody
      · exact stands.2.2.2
      · exact ih stands.2.2.2 scope inBody
  | narrow quantifier op isOp bound isBound body ih =>
      simp only [Tree.tokens, stands_cons] at stands
      exact ih stands.2.2
  | predicate | atom | constant => simp [scopes]
  | bracketed opening isOpening body closing isClosing ih =>
      simp only [Tree.tokens, List.cons_append, stands_cons, stands_append] at stands
      exact ih stands.2.1

/-- A tree is widest exactly when behind each of its scopes there is a token, or the end, that the
    body cannot go on with. -/
theorem widest_iff_scopes {s : Stratum} (t : Tree s) {tokens : List Token} {place finish : Nat}
    (stands : Stands t.tokens tokens place) (ends : place + t.tokens.length = finish) :
    t.Widest (aheadAt tokens finish) ↔
      ∀ scope ∈ t.scopes place,
        scope.2.ClosesBefore (aheadAt tokens (scope.1 + 3 + scope.2.tokens.length)) := by
  induction t generalizing place finish with
  | whole body ih | ofImplication body ih | ofDisjunction body ih | ofConjunction body ih
  | ofUnary body ih | ofTight body ih => exact ih stands ends
  | biconditional left op isOp right ihLeft ihRight
  | implication left op isOp right ihLeft ihRight
  | disjunction left op isOp right ihLeft ihRight
  | conjunction left op isOp right ihLeft ihRight =>
      obtain ⟨standsLeft, standsOp⟩ := stands_append.1 stands
      obtain ⟨foundOp, standsRight⟩ := stands_cons.1 standsOp
      simp only [Tree.tokens, List.length_append, List.length_cons] at ends
      have inLeft := ihLeft standsLeft rfl
      have endsRight : place + left.tokens.length + 1 + right.tokens.length = finish := by omega
      have inRight := ihRight standsRight endsRight
      rw [aheadAt_eq_token foundOp] at inLeft
      rw [Widest, inLeft, inRight, scopes, List.forall_mem_append]
  | negation op isOp operand ih | modal modality op isOp operand ih =>
      simp only [Tree.tokens, List.length_cons] at ends
      exact ih (stands_cons.1 stands).2 (by omega)
  | indexed modality op isOp mark isMark agent isAgent operand ih =>
      simp only [Tree.tokens, stands_cons, List.length_cons] at stands ends
      exact ih stands.2.2.2 (by omega)
  | wide quantifier op isOp bound isBound dot isDot body ih =>
      simp only [Tree.tokens, stands_cons, List.length_cons] at stands ends
      have finishBody : place + 3 + body.tokens.length = finish := by omega
      rw [Widest, ih stands.2.2.2 finishBody, scopes, List.forall_mem_cons, finishBody]
  | narrow quantifier op isOp bound isBound body ih =>
      simp only [Tree.tokens, stands_cons, List.length_cons] at stands ends
      exact ih stands.2.2 (by omega)
  | predicate | atom | constant => simp [Widest, scopes]
  | bracketed opening isOpening body closing isClosing ih =>
      simp only [Tree.tokens, List.cons_append, stands_cons, stands_append] at stands
      have inside := ih stands.2.1 rfl
      rw [aheadAt_eq_token stands.2.2.1] at inside
      exact inside

/-- The quantifiers with a dot are those of the tokens, whatever the derivation. -/
theorem scopes_places {s : Stratum} (t : Tree s) (place : Nat) :
    (t.scopes place).map (fun scope => scope.1 + 2) = dotPlaces t.tokens place := by
  induction t generalizing place with
  | whole body ih | ofImplication body ih | ofDisjunction body ih | ofConjunction body ih
  | ofUnary body ih | ofTight body ih => exact ih place
  | biconditional left op isOp right ihLeft ihRight
  | implication left op isOp right ihLeft ihRight
  | disjunction left op isOp right ihLeft ihRight
  | conjunction left op isOp right ihLeft ihRight =>
      simp [scopes, Tree.tokens, dotPlaces_append, isOp, ihLeft, ihRight]
  | negation op isOp operand ih => simp [scopes, Tree.tokens, isOp, ih]
  | modal modality op isOp operand ih =>
      cases modality <;> simp [scopes, Tree.tokens, isOp, ih, Modality.kind]
  | indexed modality op isOp mark isMark agent isAgent operand ih =>
      cases modality <;> rcases isAgent with isAgent | isAgent <;>
        simp [scopes, Tree.tokens, isOp, isMark, isAgent, ih, Modality.kind]
  | wide quantifier op isOp bound isBound dot isDot body ih =>
      cases quantifier <;>
        simp [scopes, Tree.tokens, isOp, isBound, isDot, ih, Quantifier.kind]
  | narrow quantifier op isOp bound isBound body ih =>
      cases quantifier <;>
        simp [scopes, Tree.tokens, isOp, isBound, ih, Quantifier.kind]
  | predicate name isName opening isOpening first isFirst pairs arePairs closing isClosing =>
      have none := dotPlaces_pairTokens arePairs (place + 1 + 1 + 1)
      rw [pairTokens] at none
      simp [scopes, Tree.tokens, dotPlaces_append, isName, isOpening, isFirst, isClosing, none]
  | atom name isName => simp [scopes, Tree.tokens, isName]
  | constant value token isValue =>
      cases value <;> simp [scopes, Tree.tokens, isValue, constantKind]
  | bracketed opening isOpening body closing isClosing ih =>
      simp [scopes, Tree.tokens, dotPlaces_append, isOpening, isClosing, ih]

end Tree

end ModalLanguage
