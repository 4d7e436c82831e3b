/-
Module: ModalLanguage.Proofs.Roles
Purpose: The names that a formula uses can be read off the tokens of its text. The names in a formula
  stand in an order, each in its role (`Formula.names`); the letters among the tokens of a derivation
  are these names, in this order and in the same roles (`Tree.letters_eq`). A derivation is told from
  its own tokens, whatever stands around it, as long as a phrase can begin there (`Opens`) and no
  bracket is opened behind it.
Main exports: Formula.ownNames, Formula.names, Formula.mem_names_iff, mem_letters_iff, Opens,
  Tree.letters_eq, Parser.letters_eq_names, Parser.names_are_read_off_tokens
-/
import ModalLanguage.Proofs.LongestMatch
import ModalLanguage.Proofs.Recognition
import ModalLanguage.Proofs.Subformulas
import ModalLanguage.Token.Role

namespace ModalLanguage

/-! ### Names in formulas -/

namespace Formula

/-- The names of the node at the root, in order. -/
def ownNames : Formula → List (Role × String)
  | atom name => [(.atom, name)]
  | constant _ => []
  | predicate name first rest =>
    (.predicate, name) :: (.argument, first) :: rest.map fun value => (.argument, value)
  | foreign _ _ => []
  | negation _ => []
  | modal _ agent _ => agent.toList.map fun agent => (.agent, agent.name)
  | quantified _ bound _ => [(.bound, bound)]
  | binary _ _ _ => []

/-- The names of all nodes, those of a node in front of those of its operands. -/
def names : Formula → List (Role × String)
  | atom name => (atom name).ownNames
  | constant value => (constant value).ownNames
  | predicate name first rest => (predicate name first rest).ownNames
  | foreign kind text => (foreign kind text).ownNames
  | negation operand => operand.names
  | modal op agent operand => (modal op agent operand).ownNames ++ operand.names
  | quantified op bound operand => (quantified op bound operand).ownNames ++ operand.names
  | binary _ left right => left.names ++ right.names

theorem names_eq (f : Formula) : f.names = f.ownNames ++ f.children.flatMap names := by
  cases f <;> simp [names, ownNames, children]

/-- The names in a formula are those of the nodes that occur in it. -/
theorem mem_names_iff (f : Formula) (entry : Role × String) :
    entry ∈ f.names ↔ ∃ g : Formula, g.Subformula f ∧ entry ∈ g.ownNames := by
  constructor
  · intro member
    induction f with
    | atom | constant | predicate | foreign => exact ⟨_, .self, member⟩
    | negation operand ih =>
        obtain ⟨g, inside, own⟩ := ih member
        exact ⟨g, .operand List.mem_cons_self inside, own⟩
    | modal op agent operand ih | quantified op bound operand ih =>
        rcases List.mem_append.1 member with own | inOperand
        · exact ⟨_, .self, own⟩
        · obtain ⟨g, inside, own⟩ := ih inOperand
          exact ⟨g, .operand List.mem_cons_self inside, own⟩
    | binary op left right ihLeft ihRight =>
        rcases List.mem_append.1 member with inLeft | inRight
        · obtain ⟨g, inside, own⟩ := ihLeft inLeft
          exact ⟨g, .operand List.mem_cons_self inside, own⟩
        · obtain ⟨g, inside, own⟩ := ihRight inRight
          exact ⟨g, .operand (List.mem_cons_of_mem _ List.mem_cons_self) inside, own⟩
  · rintro ⟨g, inside, own⟩
    induction inside with
    | self =>
        rw [names_eq]
        exact List.mem_append_left _ own
    | operand isOperand inside ih =>
        rw [names_eq]
        exact List.mem_append_right _ (List.mem_flatMap.2 ⟨_, isOperand, ih⟩)

/-- A sort of names is a role when it tells the names that the node has in this role. -/
theorem mem_namesBy_iff_mem_names {name? : Formula → Option String} {role : Role}
    (tells : ∀ g : Formula, ∀ name, name? g = some name ↔ (role, name) ∈ g.ownNames) (f : Formula)
    (name : String) : name ∈ f.namesBy name? ↔ (role, name) ∈ f.names := by
  simp only [mem_namesBy_iff, mem_names_iff, tells]

theorem mem_atoms_iff (f : Formula) (name : String) : name ∈ f.atoms ↔ (.atom, name) ∈ f.names := by
  refine mem_namesBy_iff_mem_names (fun g name => ?_) f name
  cases g <;> simp [atomName?, ownNames, eq_comm]

theorem mem_agents_iff (f : Formula) (name : String) :
    name ∈ f.agents ↔ (.agent, name) ∈ f.names := by
  refine mem_namesBy_iff_mem_names (fun g name => ?_) f name
  cases g <;> simp [agentName?, ownNames]

theorem mem_predicates_iff (f : Formula) (name : String) :
    name ∈ f.predicates ↔ (.predicate, name) ∈ f.names := by
  refine mem_namesBy_iff_mem_names (fun g name => ?_) f name
  cases g <;> simp [predicateName?, ownNames, eq_comm]

end Formula

/-! ### Letters among tokens -/

section Letters

variable {front : List Kind} {behind : Option Kind}

theorem letters_other {token : Token} (other : token.kind ≠ .letter) (tokens : List Token) :
    letters front behind (token :: tokens) = letters (token.kind :: front) behind tokens := by
  rw [letters, if_neg other]

theorem letters_letter {token : Token} (isLetter : token.kind = .letter) (tokens : List Token) :
    letters front behind (token :: tokens) =
      (Role.ofPlace front (nextKind behind tokens), token.value) ::
        letters (.letter :: front) behind tokens := by
  rw [letters, if_pos isLetter, isLetter]

theorem nextKind_append (behind : Option Kind) (first second : List Token) :
    nextKind behind (first ++ second) = nextKind (nextKind behind second) first := by
  cases first <;> rfl

theorem nextKind_none (tokens : List Token) :
    nextKind none tokens = tokens.head?.map Token.kind := by
  cases tokens <;> rfl

/-- What stands in front of tokens is passed on along them. -/
theorem letters_append (first second : List Token) :
    letters front behind (first ++ second) =
      letters front (nextKind behind second) first ++
        letters (first.reverse.map Token.kind ++ front) behind second := by
  induction first generalizing front with
  | nil => rfl
  | cons token first ih =>
      have passed : (token :: first).reverse.map Token.kind ++ front =
          first.reverse.map Token.kind ++ token.kind :: front := by
        simp
      rw [passed, List.cons_append, letters, letters, ih, nextKind_append]
      split <;> rfl

/-- A letter is found where it stands. -/
theorem mem_letters_iff {tokens : List Token} {role : Role} {name : String} :
    (role, name) ∈ letters front behind tokens ↔
      ∃ before token after, tokens = before ++ token :: after ∧ token.kind = .letter ∧
        token.value = name ∧
        Role.ofPlace (before.reverse.map Token.kind ++ front) (nextKind behind after) = role := by
  constructor
  · intro member
    induction tokens generalizing front with
    | nil => cases member
    | cons token tokens ih =>
        have behindToken (inRest : (role, name) ∈ letters (token.kind :: front) behind tokens) :
            ∃ before token' after, token :: tokens = before ++ token' :: after ∧
              token'.kind = .letter ∧ token'.value = name ∧ Role.ofPlace
                (before.reverse.map Token.kind ++ front) (nextKind behind after) = role := by
          obtain ⟨before, token', after, rfl, isLetter, value_eq, role_eq⟩ := ih inRest
          refine ⟨token :: before, token', after, rfl, isLetter, value_eq, ?_⟩
          simpa using role_eq
        rw [letters] at member
        split at member
        · rename_i isLetter
          rcases List.mem_cons.1 member with same | inRest
          · cases same
            exact ⟨[], token, tokens, rfl, isLetter, rfl, rfl⟩
          · exact behindToken inRest
        · exact behindToken member
  · rintro ⟨before, token, after, rfl, isLetter, rfl, rfl⟩
    rw [letters_append, letters_letter isLetter]
    exact List.mem_append_right _ List.mem_cons_self

end Letters

theorem namedAs_iff {tokens : List Token} {role : Role} {name : String} :
    NamedAs tokens role name ↔ (role, name) ∈ letters [] none tokens := by
  simp only [NamedAs, mem_letters_iff, List.append_nil, nextKind_none]

instance (tokens : List Token) (role : Role) (name : String) :
    Decidable (NamedAs tokens role name) :=
  decidable_of_iff _ namedAs_iff.symm

/-- A place where a phrase can begin: a name there is not taken and is no argument, and a bracket
    there opens no arguments. -/
structure Opens (front : List Kind) : Prop where
  notTaken : isTaken front = false
  noArgument : isArgument front = false
  noArguments : isArgument (.opening :: front) = false

namespace Opens

variable {front : List Kind}

theorem nil : Opens [] := ⟨rfl, rfl, rfl⟩

theorem head?_ne_underscore (opens : Opens front) : front.head? ≠ some .underscore := by
  intro isMark
  have notTaken := opens.notTaken
  rw [isTaken, isMark] at notTaken
  cases notTaken

/-- A phrase begins behind an operator or a dot, whatever stands in front of that. -/
theorem behind {kind : Kind} (opens : kind ∈ [Kind.negation, .conjunction, .disjunction,
    .implication, .biconditional, .box, .diamond, .dot]) : Opens (kind :: front) := by
  simp only [List.mem_cons, List.not_mem_nil, or_false] at opens
  rcases opens with rfl | rfl | rfl | rfl | rfl | rfl | rfl | rfl <;> exact ⟨rfl, rfl, rfl⟩

/-- A phrase begins behind a bracket that opens no arguments. -/
theorem bracket (opens : Opens front) : Opens (.opening :: front) :=
  ⟨rfl, opens.noArguments, rfl⟩

/-- A phrase begins behind a name that is taken by what stands in front of it. -/
theorem name (taken : isTaken front = true) : Opens (.letter :: front) :=
  ⟨rfl, rfl, by simp [isArgument, taken]⟩

end Opens

/-! ### Letters of a derivation -/

theorem ofPlace_underscore (front : List Kind) (behind : Option Kind) :
    Role.ofPlace (.underscore :: front) behind = .agent :=
  rfl

theorem ofPlace_quantifier (quantifier : Quantifier) (front : List Kind) (behind : Option Kind) :
    Role.ofPlace (quantifier.kind :: front) behind = .bound := by
  cases quantifier <;> rfl

theorem ofPlace_comma {front : List Kind} {behind : Option Kind}
    (closes : behind ≠ some .opening) : Role.ofPlace (.comma :: front) behind = .argument := by
  simp [Role.ofPlace, Kind.takesName, isArgument, closes]

theorem Opens.ofPlace_predicate {front : List Kind} (opens : Opens front) :
    Role.ofPlace front (some .opening) = .predicate := by
  have noMark := opens.head?_ne_underscore
  simp [Role.ofPlace, noMark, opens.notTaken]

theorem Opens.ofPlace_atom {front : List Kind} (opens : Opens front) {behind : Option Kind}
    (closes : behind ≠ some .opening) : Role.ofPlace front behind = .atom := by
  have noMark := opens.head?_ne_underscore
  simp [Role.ofPlace, noMark, opens.notTaken, closes, opens.noArgument]

/-- Behind a bracket that opens arguments the first of them stands. -/
theorem Opens.ofPlace_argument {front : List Kind} (opens : Opens front) {behind : Option Kind}
    (closes : behind ≠ some .opening) :
    Role.ofPlace (.opening :: .letter :: front) behind = .argument := by
  simp [Role.ofPlace, Kind.takesName, isArgument, closes, opens.notTaken]

section Pairs

variable {pairs : List (Token × Token)} (arePairs : ArePairs pairs) {behind : Option Kind}
  (closes : behind ≠ some .opening)

include arePairs closes

theorem nextKind_pairTokens_ne : nextKind behind (pairTokens pairs) ≠ some .opening := by
  cases pairs with
  | nil => exact closes
  | cons pair pairs =>
      have isComma := (arePairs pair List.mem_cons_self).1
      simp [pairTokens, nextKind, isComma]

/-- Each argument behind the first one stands behind a comma. -/
theorem letters_pairTokens {front : List Kind} :
    letters front behind (pairTokens pairs) =
      pairs.map fun pair => (.argument, pair.2.value) := by
  induction pairs generalizing front with
  | nil => rfl
  | cons pair pairs ih =>
      obtain ⟨⟨isComma, isName⟩, areRest⟩ := List.forall_mem_cons.1 arePairs
      have next := nextKind_pairTokens_ne areRest closes
      have tokens_eq : pairTokens (pair :: pairs) = pair.1 :: pair.2 :: pairTokens pairs := rfl
      rw [tokens_eq, letters_other (by simp [isComma]), letters_letter isName, isComma,
        ofPlace_comma next, ih areRest]
      rfl

end Pairs

theorem letters_operator {front : List Kind} {behind : Option Kind} {op : Token}
    (noLetter : op.kind ≠ .letter) (left right : List Token) :
    letters front behind (left ++ op :: right) =
      letters front (some op.kind) left ++
        letters (op.kind :: (left.reverse.map Token.kind ++ front)) behind right := by
  rw [letters_append, letters_other noLetter]
  rfl

/-- The letters of a derivation are the names of its formula, in order and in their roles. -/
theorem Tree.letters_eq {s : Stratum} (t : Tree s) (known : t.agentsKnown = true)
    (noAgent : ∀ token ∈ t.tokens, token.kind ≠ .agent) {front : List Kind}
    {behind : Option Kind} (opens : Opens front) (closes : behind ≠ some .opening) :
    letters front behind t.tokens = t.formula.names := by
  induction t generalizing front behind with
  | whole body ih | ofImplication body ih | ofDisjunction body ih | ofConjunction body ih
  | ofUnary body ih | ofTight body ih => exact ih known noAgent opens closes
  | biconditional left op isOp right ihLeft ihRight
  | implication left op isOp right ihLeft ihRight
  | disjunction left op isOp right ihLeft ihRight
  | conjunction left op isOp right ihLeft ihRight =>
      rw [agentsKnown, Bool.and_eq_true] at known
      rw [tokens, List.forall_mem_append, List.forall_mem_cons] at noAgent
      rw [tokens, letters_operator (by simp [isOp]), isOp,
        ihLeft known.1 noAgent.1 opens (by simp),
        ihRight known.2 noAgent.2.2 (.behind (by simp)) closes]
      rfl
  | negation op isOp operand ih =>
      rw [tokens, letters_other (by simp [isOp]), isOp]
      exact ih known (List.forall_mem_cons.1 noAgent).2 (.behind (by simp)) closes
  | modal modality op isOp operand ih =>
      have begins : Opens (modality.kind :: front) :=
        .behind (by cases modality <;> simp [Modality.kind])
      rw [tokens, letters_other (by cases modality <;> simp [isOp, Modality.kind]), isOp]
      exact ih known (List.forall_mem_cons.1 noAgent).2 begins closes
  | indexed modality op isOp mark isMark agent isAgent operand ih =>
      simp only [tokens, List.forall_mem_cons] at noAgent
      have isName : agent.kind = .letter := isAgent.resolve_right noAgent.2.2.1
      rw [agentsKnown, Bool.and_eq_true, Option.isSome_iff_exists] at known
      obtain ⟨⟨agent', read⟩, known⟩ := known
      rw [tokens, letters_other (by cases modality <;> simp [isOp, Modality.kind]),
        letters_other (by simp [isMark]), letters_letter isName, isMark, ofPlace_underscore,
        ih known noAgent.2.2.2 (.name rfl) closes, ← Agent.name_of_ofName? read]
      simp [formula, Formula.names, Formula.ownNames, read]
  | wide quantifier op isOp bound isBound dot isDot body ih =>
      simp only [tokens, List.forall_mem_cons] at noAgent
      rw [tokens, letters_other (by cases quantifier <;> simp [isOp, Quantifier.kind]),
        letters_letter isBound, letters_other (by simp [isDot]), isOp, isDot, ofPlace_quantifier,
        ih known noAgent.2.2.2 (.behind (by simp)) closes]
      rfl
  | narrow quantifier op isOp bound isBound body ih =>
      simp only [tokens, List.forall_mem_cons] at noAgent
      have taken : isTaken (quantifier.kind :: front) = true := by cases quantifier <;> rfl
      rw [tokens, letters_other (by cases quantifier <;> simp [isOp, Quantifier.kind]),
        letters_letter isBound, isOp, ofPlace_quantifier, ih known noAgent.2.2 (.name taken) closes]
      rfl
  | predicate name isName opening isOpening first isFirst rest isRest closing isClosing =>
      have tokens_eq : (predicate name isName opening isOpening first isFirst rest isRest closing
          isClosing).tokens = name :: opening :: first :: (pairTokens rest ++ [closing]) := rfl
      have noOpening : nextKind behind [closing] ≠ some .opening := by simp [nextKind, isClosing]
      have next := nextKind_pairTokens_ne isRest noOpening
      have last (front : List Kind) : letters front behind [closing] = [] := by
        rw [letters_other (by simp [isClosing])]
        rfl
      rw [tokens_eq, letters_letter isName, nextKind, isOpening, opens.ofPlace_predicate,
        letters_other (by simp [isOpening]), isOpening, letters_letter isFirst, nextKind_append,
        opens.ofPlace_argument next, letters_append, letters_pairTokens isRest noOpening, last,
        List.append_nil]
      simp [formula, Formula.names, Formula.ownNames]
  | atom name isName =>
      rw [tokens, letters_letter isName, nextKind, opens.ofPlace_atom closes]
      rfl
  | constant value token isValue =>
      rw [tokens, letters_other (by cases value <;> simp [isValue, constantKind])]
      rfl
  | bracketed opening isOpening body closing isClosing ih =>
      simp only [tokens, List.cons_append, List.forall_mem_cons, List.forall_mem_append] at noAgent
      rw [tokens, List.cons_append, letters_other (by simp [isOpening]), isOpening,
        letters_operator (by simp [isClosing]), isClosing,
        ih known noAgent.2.1 opens.bracket (by simp)]
      exact List.append_nil _

namespace Parser

/-- The letters of a text that is accepted are the names in its formula, in order and in their
    roles. -/
theorem letters_eq_names {p : Parser} {text : String} {f : Formula}
    (parsed : p.parse text = .ok f) : letters [] none (tokenize text).tokens = f.names := by
  obtain ⟨tree, tokens_eq, known, -, rfl⟩ := exists_widest_tree parsed
  rw [← tokens_eq]
  have noAgent : ∀ token ∈ tree.tokens, token.kind ≠ .agent := by
    intro token member
    rw [tokens_eq] at member
    exact kind_ne_agent_of_mem_tokenize member
  exact tree.letters_eq known noAgent .nil (by simp)

/-- The names that a formula is said to use are read off the tokens of its text, each from the tokens
    next to it. -/
theorem names_are_read_off_tokens {p : Parser} {text : String} {f : Formula}
    (parsed : p.parse text = .ok f) (name : String) :
    (name ∈ f.agents ↔ NamedAs (tokenize text).tokens .agent name) ∧
      (name ∈ f.predicates ↔ NamedAs (tokenize text).tokens .predicate name) ∧
      (name ∈ f.atoms ↔ NamedAs (tokenize text).tokens .atom name) := by
  simp only [namedAs_iff, letters_eq_names parsed]
  exact ⟨f.mem_agents_iff name, f.mem_predicates_iff name, f.mem_atoms_iff name⟩

/-- One letter in four roles: the bound name in front of a bracket is no predicate, nor is the agent,
    and the argument is no atom. -/
theorem names_are_read_off_tokens_one_letter :
    ∃ f, standard.parse "A x (x) & []_a (b(a) | A y x1(y, x))" = .ok f ∧
      NamedAs (tokenize "A x (x) & []_a (b(a) | A y x1(y, x))").tokens .agent "a" ∧
      "a" ∈ f.agents ∧ "a" ∉ f.atoms ∧ "x" ∈ f.atoms ∧ "x" ∉ f.predicates ∧ "x1" ∈ f.predicates := by
  have parsed : standard.parse "A x (x) & []_a (b(a) | A y x1(y, x))" =
      .ok (.binary .conjunction (.quantified .universal "x" (.atom "x"))
        (.modal .box (some .a) (.binary .disjunction (.predicate "b" "a" [])
          (.quantified .universal "y" (.predicate "x1" "y" ["x"]))))) := by
    decide +kernel
  have read := names_are_read_off_tokens parsed
  simp only [namedAs_iff, letters_eq_names parsed] at read ⊢
  refine ⟨_, parsed, by decide, (read "a").1.2 (by decide), ?_, (read "x").2.2.2 (by decide), ?_,
    (read "x1").2.1.2 (by decide)⟩
  · rw [(read "a").2.2]
    decide
  · rw [(read "x").2.1]
    decide

end Parser

end ModalLanguage
