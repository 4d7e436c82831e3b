/-
Module: ModalLanguage.Proofs.WellFormed
Purpose: Everything that parsing returns is well formed and is read back from its canonical text.
  The names in a formula are those of the letters among the tokens, and these are names and no
  keywords; the agents were looked up before a node was made for them, and the arguments of a
  predicate were counted from the first one on; so each node passes the checks that hold for nodes
  that are built by hand. What is true of a formula is true of its subformulas, and their nesting is
  not greater, so the same parser reads all of them back.
Main exports: Head.WellFormed, Tree.wellNamed, Formula.Subformula.wellNamed,
  Parser.wellNamed_of_parse, Parser.Ends, Parser.ends_parse, Parser.returned_formula_reads_back
-/
import ModalLanguage.Formula.Head
import ModalLanguage.Formula.Subformula
import ModalLanguage.Proofs.LongestMatch
import ModalLanguage.Proofs.Recognition
import ModalLanguage.Proofs.RoundTrip

namespace ModalLanguage

/-! ### Well-formed nodes -/

/-- Whether a node that is written down by hand is one of the language: its names can be read, its
    agent is one of the four if it has one, and it is no predicate of nothing. -/
def Head.WellFormed : Head → Prop
  | atom name => IsName name
  | constant _ => True
  | predicate name values =>
    IsName name ∧ values ≠ [] ∧ ∀ value ∈ values, IsName value
  | foreign _ _ => False
  | negation => True
  | modal _ agent => ∀ name ∈ agent, name ∈ ["a", "b", "c", "d"]
  | quantified _ bound => IsName bound
  | binary _ => True

namespace Formula

theorem WellNamed.head {f : Formula} (named : f.WellNamed) : f.head.WellFormed := by
  cases f with
  | atom name => exact named
  | predicate name first rest =>
      exact ⟨named.1, List.cons_ne_nil first rest, List.forall_mem_cons.2 named.2⟩
  | foreign => exact named
  | modal op agent operand =>
      intro name isName
      obtain ⟨agent', -, rfl⟩ := Option.map_eq_some_iff.1 isName
      cases agent' <;> simp [Agent.name]
  | quantified op bound operand => exact named.1
  | constant | negation | binary => trivial

/-- What is true of a formula is true of its operands. -/
theorem WellNamed.of_mem_children {f g : Formula} (named : f.WellNamed) (member : g ∈ f.children) :
    g.WellNamed := by
  cases f with
  | atom | constant | predicate | foreign => cases member
  | negation operand | modal op agent operand =>
      obtain rfl := List.mem_singleton.1 member
      exact named
  | quantified op bound operand =>
      obtain rfl := List.mem_singleton.1 member
      exact named.2
  | binary op left right =>
      rcases mem_children_binary.1 member with rfl | rfl
      · exact named.1
      · exact named.2

theorem Subformula.wellNamed {f g : Formula} (inside : g.Subformula f) (named : f.WellNamed) :
    g.WellNamed := by
  induction inside with
  | self => exact named
  | operand member inside ih => exact ih (named.of_mem_children member)

end Formula

/-! ### Names in derivations -/

/-- The formula of a derivation is well named when the letters among its tokens are names. -/
theorem Tree.wellNamed {s : Stratum} (t : Tree s)
    (named : ∀ token ∈ t.tokens, token.kind = .letter → IsName token.value) :
    t.formula.WellNamed := by
  induction t with
  | whole body ih | ofImplication body ih | ofDisjunction body ih | ofConjunction body ih
  | ofUnary body ih | ofTight body ih => exact ih named
  | biconditional left op isOp right ihLeft ihRight
  | implication left op isOp right ihLeft ihRight
  | disjunction left op isOp right ihLeft ihRight
  | conjunction left op isOp right ihLeft ihRight =>
      rw [tokens, List.forall_mem_append, List.forall_mem_cons] at named
      exact ⟨ihLeft named.1, ihRight named.2.2⟩
  | negation op isOp operand ih | modal modality op isOp operand ih =>
      exact ih (List.forall_mem_cons.1 named).2
  | indexed modality op isOp mark isMark agent isAgent operand ih =>
      simp only [tokens, List.forall_mem_cons] at named
      exact ih named.2.2.2
  | wide quantifier op isOp bound isBound dot isDot body ih =>
      simp only [tokens, List.forall_mem_cons] at named
      exact ⟨named.2.1 isBound, ih named.2.2.2⟩
  | narrow quantifier op isOp bound isBound body ih =>
      simp only [tokens, List.forall_mem_cons] at named
      exact ⟨named.2.1 isBound, ih named.2.2⟩
  | predicate name isName opening isOpening first isFirst rest isRest closing isClosing =>
      simp only [tokens, List.forall_mem_cons, List.cons_append, List.forall_mem_append] at named
      refine ⟨named.1 isName, named.2.2.1 isFirst, ?_⟩
      intro value isValue
      obtain ⟨pair, member, rfl⟩ := List.mem_map.1 isValue
      have inTokens : pair.2 ∈ rest.flatMap fun pair => [pair.1, pair.2] :=
        List.mem_flatMap.2 ⟨pair, member, by simp⟩
      exact named.2.2.2.1 _ inTokens (isRest pair member).2
  | atom name isName => exact named name List.mem_cons_self isName
  | constant => trivial
  | bracketed opening isOpening body closing isClosing ih =>
      simp only [tokens, List.forall_mem_cons, List.cons_append, List.forall_mem_append] at named
      exact ih named.2.1

/-! ### Parsing -/

namespace Parser

/-- The names in a formula that is returned are names, and its nesting is within the limit. -/
theorem wellNamed_of_parse {p : Parser} {text : String} {f : Formula}
    (parsed : p.parse text = .ok f) : f.WellNamed ∧ f.nesting ≤ p.limit.nesting := by
  obtain ⟨noFault, -⟩ := (p.parse_eq_ok_iff text f).1 parsed
  obtain ⟨tree, tokens_eq, known, widest, rfl⟩ := exists_widest_tree parsed
  constructor
  · refine tree.wellNamed fun token member isLetter => ?_
    rw [tokens_eq] at member
    exact isName_of_mem_tokenize member isLetter
  · rw [parse_of_widest noFault tokens_eq.symm known widest] at parsed
    rw [← tree.checkOperators_eq_ok_iff]
    cases checked : checkOperators p.limit tree.operators with
    | ok passed => rfl
    | error failure => simp [checked] at parsed

/-- What parsing a text can end in: a formula; a character that begins no token; a token, or the end
    of the text, where nothing goes on; a name that is not that of an agent; or an operator beyond
    the limit. -/
inductive Ends (p : Parser) (text : String) : Except Error Formula → Prop where
  | formula (f : Formula) : Ends p text (.ok f)
  | invalid {fault : InvalidCharacter} (found : (tokenize text).fault = some fault) :
      Ends p text (.error (.invalid fault))
  | unexpected {e : ParseError} (cause : e.cause = .unexpected) : Ends p text (.error (.parse e))
  | unknownAgent {e : ParseError} {name : String} (cause : e.cause = .unknownAgent name)
      (unknown : Agent.ofName? name = none) : Ends p text (.error (.parse e))
  | tooDeep {e : ParseError} (cause : e.cause = .tooDeep p.limit) : Ends p text (.error (.parse e))

theorem ends_parse (p : Parser) (text : String) : p.Ends text (p.parse text) := by
  cases outcome : p.parse text with
  | ok f => exact .formula f
  | error error =>
      cases error with
      | invalid fault => exact .invalid (fault_of_parse_eq_invalid outcome)
      | parse e =>
          obtain ⟨failure, rfl, stops⟩ := parse_eq_parseError outcome
          rcases stops with ⟨before, token, after, c, -, -, stops⟩ | ⟨c, -, -, stops⟩
          · cases Configuration.step_error stops with
            | unexpected refused => exact .unexpected rfl
            | unknownAgent focus unknown => exact .unknownAgent rfl unknown
            | tooDeep complete failed => exact .tooDeep rfl
          · rcases Configuration.finish_error stops with ⟨rfl, -⟩ | ⟨phrase, operator, -, rfl, -⟩
            · exact .unexpected rfl
            · exact .tooDeep rfl

/-- Parsing ends in a formula or in one of the errors of a text. A formula that is returned is
    within the limit, each node of it passes the checks for nodes that are built by hand, and the
    same parser reads each subformula back from its canonical text. -/
theorem returned_formula_reads_back (p : Parser) (text : String) :
    p.Ends text (p.parse text) ∧
      ∀ f, p.parse text = .ok f → f.nesting ≤ p.limit.nesting ∧
        ∀ g : Formula, g.Subformula f →
          g.head.WellFormed ∧ g.head.build g.children = .ok g ∧ p.parse g.render = .ok g := by
  refine ⟨p.ends_parse text, ?_⟩
  intro f parsed
  obtain ⟨named, within⟩ := wellNamed_of_parse parsed
  refine ⟨within, ?_⟩
  intro g inside
  have namedInside := inside.wellNamed named
  have withinInside := inside.nesting_le.trans within
  exact ⟨namedInside.head, g.build_head, parse_render_of_le namedInside withinInside⟩

/-- A negation that was written without brackets is read back without the operator around it. -/
theorem returned_negation_reads_back :
    standard.parse "[]_a (~P(x, y1))" = .ok (.modal .box (some .a)
        (.negation (.predicate "P" "x" ["y1"]))) ∧
      standard.parse (Formula.negation (.predicate "P" "x" ["y1"])).render =
        .ok (.negation (.predicate "P" "x" ["y1"])) := by
  have parsed : standard.parse "[]_a (~P(x, y1))" = .ok (.modal .box (some .a)
      (.negation (.predicate "P" "x" ["y1"]))) := by
    decide +kernel
  have inside : (Formula.negation (.predicate "P" "x" ["y1"])).Subformula
      (.modal .box (some .a) (.negation (.predicate "P" "x" ["y1"]))) :=
    .operand List.mem_cons_self .self
  exact ⟨parsed, (((returned_formula_reads_back standard _).2 _ parsed).2 _ inside).2.2⟩

end Parser

end ModalLanguage
