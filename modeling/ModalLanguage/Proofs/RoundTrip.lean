/-
Module: ModalLanguage.Proofs.RoundTrip
Purpose: Parsing gives back the formula that was printed. By induction on the formula its canonical
  text, in front of anything that breaks a name, is cut into the tokens of a derivation of it: a
  tight one, or a negation, which is bracketed wherever only a tight one fits. There is no dot in
  it, so no quantifier could reach further, and the one reading of these tokens is the formula
  itself, as long as the limit allows its nesting.
Main exports: Formula.WellNamed, Prints, exists_prints, Parser.exists_parse_render,
  Parser.parse_render_of_le, Parser.parse_render
-/
import ModalLanguage.Proofs.Cutting
import ModalLanguage.Proofs.Printing
import ModalLanguage.Proofs.TreeReading

namespace ModalLanguage

/-! ### Formulas that can be read back -/

theorem isName_agent (agent : Agent) : IsName agent.name where
  spelled := by cases agent <;> exact ⟨_, [], rfl, rfl, nofun⟩
  noKeyword := by cases agent <;> decide

namespace Formula

/-- Every name in the formula can be read as one, and nothing in it is foreign. -/
def WellNamed : Formula → Prop
  | atom name => IsName name
  | constant _ => True
  | predicate name first rest => IsName name ∧ IsName first ∧ ∀ argument ∈ rest, IsName argument
  | foreign _ _ => False
  | negation operand => operand.WellNamed
  | modal _ _ operand => operand.WellNamed
  | quantified _ bound operand => IsName bound ∧ operand.WellNamed
  | binary _ left right => left.WellNamed ∧ right.WellNamed

/-- The stratum of the derivation of the canonical text. -/
def canonicalStratum : Formula → Stratum
  | negation _ => .unary
  | foreign _ _ => .unary
  | _ => .tight

theorem canonicalStratum_of_not_isBracketed {f : Formula} (bare : f.isBracketed = false) :
    f.canonicalStratum = .tight := by
  cases f <;> first | rfl | cases bare

theorem unary_le_canonicalStratum (f : Formula) :
    Stratum.unary.level ≤ f.canonicalStratum.level := by
  cases f with
  | negation | foreign => exact Nat.le_refl _
  | _ => exact Nat.le_succ _

end Formula

/-! ### Derivations of printed text -/

/-- A text, in front of a rest, is cut into the tokens of a derivation of a formula in which there
    is no quantifier that could reach further. -/
structure Prints {s : Stratum} (t : Tree s) (f : Formula) (text : List Char) (offset : Nat)
    (rest : List Char) : Prop where
  cuts : Cuts text offset rest t.tokens
  formula : t.formula = f
  known : t.agentsKnown = true
  widest : ∀ ahead, t.Widest ahead

section Pieces

variable {f : Formula} {text rest : List Char} {offset : Nat}

/-- A printed phrase is one of every looser stratum. -/
theorem Prints.lift {s : Stratum} {t : Tree s} (prints : Prints t f text offset rest)
    (target : Stratum) (looser : target.level ≤ s.level) :
    ∃ t' : Tree target, Prints t' f text offset rest := by
  obtain ⟨t', alike⟩ := t.exists_lift target looser
  refine ⟨t', ?_, alike.formula.trans prints.formula, alike.agentsKnown.trans prints.known, ?_⟩
  · rw [alike.tokens]
    exact prints.cuts
  · intro ahead
    exact (alike.widest ahead).2 (prints.widest ahead)

/-- A closing bracket breaks a name. -/
theorem breaks_closing (rest : List Char) : Breaks (")".toList ++ rest) :=
  breaks_cons rfl

/-- So does a blank. -/
theorem breaks_blank (rest : List Char) : Breaks (" ".toList ++ rest) :=
  breaks_cons rfl

/-- A printed phrase in brackets. -/
theorem Prints.bracketed {s : Stratum} {t : Tree s}
    (prints : Prints t f text (offset + 1) (")".toList ++ rest)) :
    ∃ t' : Tree .tight, Prints t' f ("(".toList ++ (text ++ ")".toList)) offset rest := by
  obtain ⟨body, prints⟩ := prints.lift .formula (Nat.zero_le _)
  let opening : Token := ⟨.opening, "(", offset⟩
  let closing : Token := ⟨.closing, ")", offset + 1 + text.length⟩
  have opens : Cuts "(".toList offset (text ++ ")".toList ++ rest) [opening] :=
    cuts_lexeme offset rfl rfl
  have closes : Cuts ")".toList (offset + 1 + text.length) rest [closing] :=
    cuts_lexeme _ rfl rfl
  refine ⟨.bracketed opening rfl body closing rfl, ?_, ?_, prints.known, ?_⟩
  · exact opens.append (prints.cuts.append closes)
  · exact prints.formula
  · intro ahead
    exact prints.widest _

/-- A printed operand of a modal operator or of a quantifier. -/
theorem exists_prints_operand {operand : Formula}
    (printed : ∀ (offset : Nat) {rest : List Char}, Breaks rest →
      ∃ t : Tree operand.canonicalStratum, Prints t operand operand.canonical.toList offset rest)
    (offset : Nat) {rest : List Char} (breaks : Breaks rest) :
    ∃ t : Tree .tight, Prints t operand operand.operandText.toList offset rest := by
  unfold Formula.operandText
  by_cases bracketed : operand.isBracketed = true
  · obtain ⟨t, prints⟩ := printed (offset + 1) (breaks_closing rest)
    rw [if_pos bracketed, String.toList_append, String.toList_append, List.append_assoc]
    exact prints.bracketed
  · obtain ⟨t, prints⟩ := printed offset breaks
    rw [if_neg bracketed]
    refine prints.lift .tight ?_
    rw [Formula.canonicalStratum_of_not_isBracketed (by simpa using bracketed)]

theorem cuts_space (offset : Nat) (rest : List Char) : Cuts " ".toList offset rest [] :=
  cuts_blank offset rest rfl

/-- A negation in front of a printed operand. -/
theorem Prints.negation {t : Tree .unary}
    (prints : Prints t f text (offset + negationSymbol.toList.length) rest) :
    ∃ t' : Tree .unary, Prints t' (.negation f) (negationSymbol.toList ++ text) offset rest := by
  let op : Token := ⟨.negation, negationSymbol, offset⟩
  have cutsOp : Cuts negationSymbol.toList offset (text ++ rest) [op] :=
    cuts_lexeme offset rfl rfl
  refine ⟨.negation op rfl t, ?_, ?_, prints.known, prints.widest⟩
  · exact cutsOp.append prints.cuts
  · exact congrArg Formula.negation prints.formula

theorem cuts_modality (modality : Modality) (offset : Nat) (rest : List Char) :
    Cuts modality.symbol.toList offset rest [⟨modality.kind, modality.symbol, offset⟩] := by
  refine cuts_lexeme offset ?_ ?_
  · cases modality <;> rfl
  · cases modality <;> rfl

/-- A modal operator in front of a printed operand. -/
theorem Prints.modal (modality : Modality) {t : Tree .tight}
    (prints : Prints t f text (offset + modality.symbol.toList.length) rest) :
    ∃ t' : Tree .tight,
      Prints t' (.modal modality none f) (modality.symbol.toList ++ text) offset rest := by
  let op : Token := ⟨modality.kind, modality.symbol, offset⟩
  refine ⟨.modal modality op rfl t, ?_, ?_, prints.known, prints.widest⟩
  · exact (cuts_modality modality offset _).append prints.cuts
  · exact congrArg (Formula.modal modality none) prints.formula

/-- A modal operator with an agent in front of a printed operand. -/
theorem Prints.indexed (modality : Modality) (agent : Agent) {t : Tree .tight}
    (prints : Prints t f text
      (offset + modality.symbol.toList.length + 1 + agent.name.toList.length + 1) rest) :
    ∃ t' : Tree .tight, Prints t' (.modal modality (some agent) f)
      (modality.symbol.toList ++ ("_".toList ++ (agent.name.toList ++ (" ".toList ++ text))))
      offset rest := by
  let place := offset + modality.symbol.toList.length
  let op : Token := ⟨modality.kind, modality.symbol, offset⟩
  let mark : Token := ⟨.underscore, "_", place⟩
  let name : Token := ⟨.letter, agent.name, place + 1⟩
  have cutsMark : Cuts "_".toList place (agent.name.toList ++ (" ".toList ++ text) ++ rest)
      [mark] :=
    cuts_lexeme place rfl rfl
  have cutsName : Cuts agent.name.toList (place + 1) (" ".toList ++ text ++ rest) [name] := by
    refine cuts_name _ (isName_agent agent) ?_
    rw [List.append_assoc]
    exact breaks_blank _
  have cutsOperand := (cuts_space _ (text ++ rest)).append prints.cuts
  refine ⟨.indexed modality op rfl mark rfl name (.inl rfl) t, ?_, ?_, ?_, prints.widest⟩
  · exact (cuts_modality modality offset _).append
      (cutsMark.append (cutsName.append cutsOperand))
  · change Formula.modal modality (Agent.ofName? agent.name) t.formula = _
    rw [Agent.ofName?_name, prints.formula]
  · change ((Agent.ofName? agent.name).isSome && t.agentsKnown) = true
    rw [Agent.ofName?_name, prints.known]
    rfl

/-- A quantifier with its name in front of a printed operand. -/
theorem Prints.narrow (quantifier : Quantifier) {bound : String} (isBound : IsName bound)
    {t : Tree .tight} (prints : Prints t f text
      (offset + quantifier.symbol.toList.length + bound.toList.length + 1) rest) :
    ∃ t' : Tree .tight, Prints t' (.quantified quantifier bound f)
      (quantifier.symbol.toList ++ (bound.toList ++ (" ".toList ++ text))) offset rest := by
  let place := offset + quantifier.symbol.toList.length
  let op : Token := ⟨quantifier.kind, quantifier.symbol, offset⟩
  let name : Token := ⟨.letter, bound, place⟩
  have cutsOp : Cuts quantifier.symbol.toList offset
      (bound.toList ++ (" ".toList ++ text) ++ rest) [op] := by
    refine cuts_lexeme offset ?_ ?_
    · cases quantifier <;> rfl
    · cases quantifier <;> rfl
  have cutsName : Cuts bound.toList place (" ".toList ++ text ++ rest) [name] := by
    refine cuts_name _ isBound ?_
    rw [List.append_assoc]
    exact breaks_blank _
  have cutsOperand := (cuts_space _ (text ++ rest)).append prints.cuts
  refine ⟨.narrow quantifier op rfl name rfl t, ?_, ?_, prints.known, prints.widest⟩
  · exact cutsOp.append (cutsName.append cutsOperand)
  · exact congrArg (Formula.quantified quantifier bound) prints.formula

/-- Two printed operands with a connective between them. -/
theorem Prints.binary (op : Connective) {left right : Formula} {leftText rightText : List Char}
    {leftTree : Tree op.left} {rightTree : Tree op.right}
    (printsLeft : Prints leftTree left leftText offset
      (" ".toList ++ (op.symbol.toList ++ (" ".toList ++ rightText)) ++ rest))
    (printsRight : Prints rightTree right rightText
      (offset + leftText.length + 1 + op.symbol.toList.length + 1) rest) :
    ∃ t : Tree op.stratum, Prints t (.binary op left right)
      (leftText ++ (" ".toList ++ (op.symbol.toList ++ (" ".toList ++ rightText))))
      offset rest := by
  let token : Token := ⟨op.kind, op.symbol, offset + leftText.length + 1⟩
  have cutsOp : Cuts op.symbol.toList (offset + leftText.length + 1)
      (" ".toList ++ rightText ++ rest) [token] := by
    refine cuts_lexeme _ ?_ ?_
    · cases op <;> rfl
    · cases op <;> rfl
  have cutsRight := (cuts_space _ (rightText ++ rest)).append printsRight.cuts
  refine ⟨.binary op leftTree token rfl rightTree, ?_, ?_, ?_, ?_⟩
  · rw [Tree.tokens_binary]
    exact printsLeft.cuts.append ((cuts_space _ _).append (cutsOp.append cutsRight))
  · rw [Tree.formula_binary, printsLeft.formula, printsRight.formula]
  · rw [Tree.agentsKnown_binary, printsLeft.known, printsRight.known]
    rfl
  · intro ahead
    rw [Tree.widest_binary]
    exact ⟨printsLeft.widest _, printsRight.widest _⟩

end Pieces

/-! ### Leaves -/

theorem exists_prints_constant (value : Bool) (offset : Nat) (rest : List Char) :
    ∃ t : Tree .tight,
      Prints t (.constant value) (Formula.constantText value).toList offset rest := by
  let token : Token := ⟨constantKind value, Formula.constantText value, offset⟩
  have cuts : Cuts (Formula.constantText value).toList offset rest [token] := by
    refine cuts_lexeme offset ?_ ?_
    · cases value <;> rfl
    · cases value <;> rfl
  exact ⟨.constant value token rfl, cuts, rfl, rfl, fun _ => trivial⟩

/-- The text of the arguments behind the first one. -/
def moreText (arguments : List String) : List Char :=
  arguments.flatMap fun argument => ",".toList ++ (" ".toList ++ argument.toList)

theorem toList_intercalate_arguments (first : String) (rest : List String) :
    (", ".intercalate (first :: rest)).toList = first.toList ++ moreText rest := by
  induction rest generalizing first with
  | nil => simp [moreText]
  | cons next rest ih =>
      rw [String.intercalate_cons_cons, String.toList_append, String.toList_append, ih]
      simp [moreText]

theorem breaks_moreText {arguments : List String} {rest : List Char} (breaks : Breaks rest) :
    Breaks (moreText arguments ++ rest) := by
  cases arguments with
  | nil => exact breaks
  | cons argument arguments => exact breaks_cons rfl

/-- The arguments behind the first one are cut into pairs of a comma and a name. -/
theorem exists_pairs {arguments : List String} (named : ∀ argument ∈ arguments, IsName argument)
    (offset : Nat) {rest : List Char} (breaks : Breaks rest) :
    ∃ pairs, ArePairs pairs ∧ (pairs.map fun pair => pair.2.value) = arguments ∧
      Cuts (moreText arguments) offset rest (pairTokens pairs) := by
  induction arguments generalizing offset with
  | nil => exact ⟨[], by simp [ArePairs], rfl, cuts_nil offset rest⟩
  | cons argument arguments ih =>
      obtain ⟨isName, areNames⟩ := List.forall_mem_cons.1 named
      obtain ⟨pairs, arePairs, values, cuts⟩ :=
        ih areNames (offset + (",".toList ++ (" ".toList ++ argument.toList)).length)
      let comma : Token := ⟨.comma, ",", offset⟩
      let name : Token := ⟨.letter, argument, offset + 1 + 1⟩
      have cutsComma : Cuts ",".toList offset
          (" ".toList ++ argument.toList ++ (moreText arguments ++ rest)) [comma] :=
        cuts_lexeme offset rfl rfl
      have cutsName : Cuts argument.toList (offset + 1 + 1) (moreText arguments ++ rest) [name] :=
        cuts_name _ isName (breaks_moreText breaks)
      have cutsPair := cutsComma.append ((cuts_space _ _).append cutsName)
      refine ⟨(comma, name) :: pairs, ?_, ?_, ?_⟩
      · exact List.forall_mem_cons.2 ⟨⟨rfl, rfl⟩, arePairs⟩
      · rw [List.map_cons, values]
      · exact cutsPair.append cuts

theorem exists_prints_predicate {name first : String} {arguments : List String}
    (isName : IsName name) (isFirst : IsName first)
    (areNames : ∀ argument ∈ arguments, IsName argument) (offset : Nat) (rest : List Char) :
    ∃ t : Tree .tight, Prints t (.predicate name first arguments)
      (Formula.predicateText name first arguments).toList offset rest := by
  let place := offset + name.toList.length
  let stop := place + 1 + first.toList.length + (moreText arguments).length
  let head : Token := ⟨.letter, name, offset⟩
  let opening : Token := ⟨.opening, "(", place⟩
  let argument : Token := ⟨.letter, first, place + 1⟩
  let closing : Token := ⟨.closing, ")", stop⟩
  obtain ⟨pairs, arePairs, values, cutsMore⟩ :=
    exists_pairs areNames (place + 1 + first.toList.length) (breaks_closing rest)
  have cutsName : Cuts name.toList offset
      ("(".toList ++ (first.toList ++ (moreText arguments ++ ")".toList)) ++ rest) [head] :=
    cuts_name offset isName (breaks_cons rfl)
  have cutsOpening : Cuts "(".toList place
      (first.toList ++ (moreText arguments ++ ")".toList) ++ rest) [opening] :=
    cuts_lexeme _ rfl rfl
  have cutsFirst : Cuts first.toList (place + 1) (moreText arguments ++ ")".toList ++ rest)
      [argument] := by
    refine cuts_name _ isFirst ?_
    rw [List.append_assoc]
    exact breaks_moreText (breaks_closing rest)
  have cutsClosing : Cuts ")".toList stop rest [closing] := cuts_lexeme _ rfl rfl
  refine ⟨.predicate head rfl opening rfl argument rfl pairs arePairs closing rfl, ?_, ?_, rfl,
    fun _ => trivial⟩
  · rw [Formula.predicateText]
    simp only [String.toList_append, toList_intercalate_arguments, List.append_assoc]
    exact cutsName.append (cutsOpening.append (cutsFirst.append (cutsMore.append cutsClosing)))
  · exact congrArg (Formula.predicate name first) values

/-! ### The text of a formula -/

/-- The canonical text of a formula prints a derivation of it, in front of what breaks a name. -/
theorem exists_prints {f : Formula} (named : f.WellNamed) (offset : Nat) {rest : List Char}
    (breaks : Breaks rest) :
    ∃ t : Tree f.canonicalStratum, Prints t f f.canonical.toList offset rest := by
  induction f generalizing offset rest with
  | atom name =>
      exact ⟨.atom ⟨.letter, name, offset⟩ rfl, cuts_name offset named breaks, rfl, rfl,
        fun _ => trivial⟩
  | constant value => exact exists_prints_constant value offset rest
  | predicate name first arguments =>
      obtain ⟨isName, isFirst, areNames⟩ := named
      exact exists_prints_predicate isName isFirst areNames offset rest
  | foreign => exact named.elim
  | negation operand ih =>
      obtain ⟨t, prints⟩ := ih named (offset + negationSymbol.toList.length) breaks
      obtain ⟨t, prints⟩ := prints.lift .unary operand.unary_le_canonicalStratum
      rw [Formula.canonical, String.toList_append]
      exact prints.negation
  | modal modality agent operand ih =>
      cases agent with
      | none =>
          obtain ⟨t, prints⟩ := exists_prints_operand (ih named) _ breaks
          rw [Formula.canonical, Formula.modalText, String.toList_append]
          exact prints.modal modality
      | some agent =>
          obtain ⟨t, prints⟩ := exists_prints_operand (ih named) _ breaks
          rw [Formula.canonical, Formula.modalText]
          simp only [String.toList_append, List.append_assoc]
          exact prints.indexed modality agent
  | quantified quantifier bound operand ih =>
      obtain ⟨isBound, named⟩ := named
      obtain ⟨t, prints⟩ := exists_prints_operand (ih named) _ breaks
      rw [Formula.canonical, Formula.quantifierText]
      simp only [String.toList_append, List.append_assoc]
      exact prints.narrow quantifier isBound
  | binary op left right ihLeft ihRight =>
      obtain ⟨namedLeft, namedRight⟩ := named
      have breaksLeft : Breaks (" ".toList ++ (op.symbol.toList ++ (" ".toList ++
          right.canonical.toList)) ++ (")".toList ++ rest)) := by
        rw [List.append_assoc]
        exact breaks_blank _
      obtain ⟨rightTree, printsRight⟩ := ihRight namedRight
        (offset + 1 + left.canonical.toList.length + 1 + op.symbol.toList.length + 1)
        (breaks_closing rest)
      obtain ⟨leftTree, printsLeft⟩ := ihLeft namedLeft (offset + 1) breaksLeft
      obtain ⟨rightTree, printsRight⟩ :=
        printsRight.lift op.right (op.right_le_unary.trans right.unary_le_canonicalStratum)
      obtain ⟨leftTree, printsLeft⟩ :=
        printsLeft.lift op.left (op.left_le_unary.trans left.unary_le_canonicalStratum)
      obtain ⟨t, prints⟩ := Prints.binary op printsLeft printsRight
      have bracketed := prints.bracketed
      rw [Formula.canonical]
      simp only [String.toList_append, List.append_assoc] at bracketed ⊢
      exact bracketed

/-! ### The round trip -/

namespace Parser

/-- The canonical text of a formula is parsed as a derivation of it, with the operators held against
    the limit. -/
theorem exists_parse_render (p : Parser) {f : Formula} (named : f.WellNamed) :
    ∃ t : Tree .formula, t.formula = f ∧
      p.parse f.render =
        match checkOperators p.limit t.operators with
        | .ok _ => .ok f
        | .error failure => .error (.parse (failure.report f.render p.limit)) := by
  obtain ⟨t, prints⟩ := exists_prints named 0 breaks_nil
  obtain ⟨t, prints⟩ := prints.lift .formula (Nat.zero_le _)
  have tokens_eq : tokenize f.render = ⟨t.tokens, none⟩ := by
    rw [f.render_eq_canonical]
    exact tokenize_of_cuts prints.cuts
  have parsed := parse_of_widest (p := p) (by rw [tokens_eq]) (by rw [tokens_eq]) prints.known
    (prints.widest .ending)
  rw [prints.formula] at parsed
  exact ⟨t, prints.formula, parsed⟩

/-- The canonical text of a formula within the limit is read back. -/
theorem parse_render_of_le {p : Parser} {f : Formula} (named : f.WellNamed)
    (within : f.nesting ≤ p.limit.nesting) : p.parse f.render = .ok f := by
  obtain ⟨t, rfl, parsed⟩ := p.exists_parse_render named
  rw [parsed, (t.checkOperators_eq_ok_iff p.limit).2 within]

/-- Parsing is inverse to printing, up to the limit. The canonical text of a formula whose names can
    be read, and with nothing foreign in it, is parsed as that formula when its nesting is within
    the limit; when it is not, parsing fails, and what exceeds the limit is the nesting. -/
theorem parse_render (p : Parser) (f : Formula) (named : f.WellNamed) :
    (f.nesting ≤ p.limit.nesting → p.parse f.render = .ok f) ∧
      (p.limit.nesting < f.nesting →
        ∃ e, p.parse f.render = .error e ∧ e.isTooDeep = true) := by
  refine ⟨parse_render_of_le named, ?_⟩
  intro exceeds
  obtain ⟨t, rfl, parsed⟩ := p.exists_parse_render named
  cases checked : checkOperators p.limit t.operators with
  | ok passed =>
      have within := (t.checkOperators_eq_ok_iff p.limit).1 checked
      exact absurd within (Nat.not_le.2 exceeds)
  | error failure =>
      obtain ⟨operator, rfl⟩ := checkOperators_error checked
      rw [checked] at parsed
      exact ⟨_, parsed, rfl⟩

/-- A negation in brackets behind an agent, read back under a limit of just its nesting, and too
    deep under the limit below. -/
theorem parse_render_bracketed_negation :
    ∃ f : Formula, f.WellNamed ∧ f.nesting = 4 ∧
      (⟨⟨4, by decide⟩⟩ : Parser).parse f.render = .ok f ∧
      ∃ e, (⟨⟨3, by decide⟩⟩ : Parser).parse f.render = .error e ∧ e.isTooDeep = true := by
  have isName (c : Char) (digits : List Char) (isLetter : c.isAlpha = true)
      (areDigits : ∀ d ∈ digits, d.isDigit = true)
      (noKeyword : String.ofList (c :: digits) ∉ ["T", "F", "A", "E"]) :
      IsName (String.ofList (c :: digits)) :=
    ⟨⟨c, digits, String.toList_ofList, isLetter, areDigits⟩, noKeyword⟩
  let f : Formula := .modal .box (some .a) (.negation (.binary .conjunction (.atom "p")
    (.predicate "q" "x" ["y1"])))
  have named : f.WellNamed := by
    refine ⟨isName 'p' [] rfl nofun (by decide), isName 'q' [] rfl nofun (by decide),
      isName 'x' [] rfl nofun (by decide), ?_⟩
    simpa using isName 'y' ['1'] rfl (List.forall_mem_singleton.2 rfl) (by decide)
  exact ⟨f, named, rfl, (parse_render ⟨⟨4, by decide⟩⟩ f named).1 (Nat.le_refl 4),
    (parse_render ⟨⟨3, by decide⟩⟩ f named).2 (Nat.lt_succ_self 3)⟩

end Parser

end ModalLanguage
