/-
Module: ModalLanguage.Proofs.TableItems
Purpose: The table is that of the grammar. A state stands for the items that are possible in it,
  rules with a place in their bodies (`State.kernel`, `State.Has`). What is shifted and where a rule
  leads to is given by the items that can advance (`State.step?_kernel_iff`), and each state is
  reached. A complete rule is reduced before the lookaheads that the reading of some text can bring
  there, over all ways into the state (`Looks`, `reduces_iff_looks`). Where a token could be shifted
  too, the rule binds less tightly (`precedence_lt_of_shift`).
Main exports: Item, State.kernel, State.Has, State.step?, State.has_iff, State.step?_kernel_iff,
  State.foldlM_step?_path, State.kernel_injective, Begins, Looks, reduces_iff_looks,
  precedence_lt_of_shift
-/
import ModalLanguage.Automaton.Simulation
import ModalLanguage.Proofs.Strata

namespace ModalLanguage.Automaton

/-- A rule with a place in its body. -/
structure Item where
  rule : Rule
  dot : Nat
deriving DecidableEq, Repr

namespace Item

/-- The symbol at the place. -/
def next? (item : Item) : Option Symbol := item.rule.body[item.dot]?

/-- The place behind that symbol. -/
def advance (item : Item) : Item := ⟨item.rule, item.dot + 1⟩

end Item

namespace State

/-- The items whose places lie right behind what a state is named for. -/
def kernel : State → List Item
  | start => [⟨.loosen .formula, 0⟩]
  | awaiting .bracket => [⟨.bracketed, 1⟩]
  | awaiting .negation => [⟨.negation, 1⟩]
  | awaiting (.modal op) => [⟨.modal op, 1⟩, ⟨.indexed op, 1⟩]
  | awaiting (.indexed op) => [⟨.indexed op, 3⟩]
  | awaiting (.narrow op) => [⟨.narrow op, 2⟩, ⟨.wide op, 2⟩]
  | awaiting (.wide op) => [⟨.wide op, 3⟩]
  | awaiting (.right op) => [⟨.binary op, 2⟩]
  | filled .bracket => [⟨.bracketed, 2⟩]
  | filled .negation => [⟨.negation, 2⟩]
  | filled (.modal op) => [⟨.modal op, 2⟩]
  | filled (.indexed op) => [⟨.indexed op, 4⟩]
  | filled (.narrow op) => [⟨.narrow op, 3⟩]
  | filled (.wide op) => [⟨.wide op, 4⟩]
  | filled (.right .disjunction) => [⟨.binary .disjunction, 3⟩, ⟨.binary .conjunction, 1⟩]
  | filled (.right op) => [⟨.binary op, 3⟩]
  | inner .conjunction => [⟨.loosen .conjunction, 1⟩, ⟨.binary .conjunction, 1⟩]
  | inner .disjunction =>
    [⟨.loosen .disjunction, 1⟩, ⟨.binary .disjunction, 1⟩, ⟨.binary .implication, 1⟩]
  | inner .implication => [⟨.loosen .implication, 1⟩, ⟨.binary .biconditional, 1⟩]
  | inner s => [⟨.loosen s, 1⟩]
  | subscript op => [⟨.indexed op, 2⟩]
  | agent isLetter => [⟨.agent isLetter, 1⟩]
  | quantifier op => [⟨.narrow op, 1⟩, ⟨.wide op, 1⟩]
  | name => [⟨.atom, 1⟩, ⟨.predicate, 1⟩]
  | opened => [⟨.predicate, 2⟩]
  | firstArgument => [⟨.firstArgument, 1⟩]
  | arguments => [⟨.predicate, 3⟩, ⟨.nextArgument, 1⟩]
  | comma => [⟨.nextArgument, 2⟩]
  | nextArgument => [⟨.nextArgument, 3⟩]
  | closed => [⟨.predicate, 4⟩]
  | constant value => [⟨.constant value, 1⟩]
  | bracketed => [⟨.bracketed, 3⟩]
  | base b => [⟨.base b, 1⟩]

/-- The items that are possible in a state: those of its kernel, and the beginnings of all rules for
    what an item wants next. -/
inductive Has (state : State) : Item → Prop where
  | kernel {item : Item} (member : item ∈ state.kernel) : Has state item
  | predicted {item : Item} (rule : Rule) (has : Has state item)
      (wants : item.next? = some (.phrase rule.result)) : Has state ⟨rule, 0⟩

/-- The state behind a symbol. -/
def step? (state : State) : Symbol → Option State
  | .token kind => state.shift kind
  | .phrase made => state.goto made

/-- What is to come in a state: an operand of the stratum that it wants. -/
theorem exists_kernel_of_hole? {state : State} {wanted : Stratum}
    (isHole : state.hole? = some wanted) :
    ∃ item ∈ state.kernel, item.next? = some (.phrase (.stratum wanted)) := by
  cases state with
  | start =>
      cases isHole
      exact ⟨_, List.mem_cons_self, rfl⟩
  | awaiting slot =>
      cases isHole
      cases slot with
      | narrow => exact ⟨_, List.mem_cons_self, rfl⟩
      | _ => exact ⟨_, List.mem_cons_self, rfl⟩
  | _ => cases isHole

/-- Every stratum that can be loosened to the one that is wanted is wanted too. -/
theorem exists_has_stratum {state : State} {wanted s : Stratum}
    (isHole : state.hole? = some wanted) (fits : wanted.level ≤ s.level) :
    ∃ item, state.Has item ∧ item.next? = some (.phrase (.stratum s)) := by
  obtain ⟨gap, levels⟩ := Nat.exists_eq_add_of_le fits
  induction gap generalizing s with
  | zero =>
      obtain rfl := Stratum.level_injective levels
      obtain ⟨item, member, wants⟩ := exists_kernel_of_hole? isHole
      exact ⟨item, .kernel member, wants⟩
  | succ gap ih =>
      have notFormula : s ≠ .formula := by
        rintro rfl
        simp [Stratum.level] at levels
      obtain ⟨s', below, result_eq⟩ := Rule.exists_result_loosen notFormula
      obtain ⟨item, has, wants⟩ := ih (s := s') (by omega) (by omega)
      exact ⟨⟨.loosen s, 0⟩, .predicted (.loosen s) has (by rw [wants, result_eq]), rfl⟩

/-- The beginnings of the rules for what the state can go on with are possible in it. -/
theorem has_of_goto {state : State} {rule : Rule} (leads : (state.goto rule.result).isSome = true) :
    state.Has ⟨rule, 0⟩ := by
  obtain ⟨next, going⟩ := Option.isSome_iff_exists.1 leads
  cases made : rule.result with
  | goal =>
      rw [made] at going
      cases going
  | stratum s =>
      rw [made] at going
      obtain ⟨wanted, isHole, fits, -⟩ := goto_stratum_eq_some_iff.1 going
      obtain ⟨item, has, wants⟩ := exists_has_stratum isHole fits
      exact .predicted rule has (by rw [wants, made])
  | base b =>
      rw [made] at going
      obtain ⟨wanted, isHole⟩ := Option.isSome_iff_exists.1 (goto_base_eq_some_iff.1 going).1
      obtain ⟨item, has, wants⟩ := exists_has_stratum isHole wanted.level_le_tight
      -- a tight phrase is wanted, and one can be made of each base
      have hasBase : state.Has ⟨.base b, 0⟩ := .predicted (.base b) has wants
      exact .predicted rule hasBase (by rw [made]; rfl)
  | agent =>
      rw [made] at going
      cases state with
      | subscript op => exact .predicted rule (.kernel List.mem_cons_self) (by rw [made]; rfl)
      | _ => cases going
  | «arguments» =>
      rw [made] at going
      cases state with
      | opened => exact .predicted rule (.kernel List.mem_cons_self) (by rw [made]; rfl)
      | _ => cases going

end State

/-! ### The finite check -/

def Modality.all : List Modality := [.box, .diamond]

def Quantifier.all : List Quantifier := [.universal, .existential]

def Stratum.all : List Stratum :=
  [.formula, .biconditional, .implication, .disjunction, .conjunction, .unary, .tight]

def Base.all : List Base := [.quantified, .predicate, .atom]

def Rule.all : List Rule :=
  List.flatten
    [Stratum.all.map .loosen, Connective.all.map .binary, [.negation], Modality.all.map .modal,
      Modality.all.map .indexed, Base.all.map .base, [.agent true, .agent false],
      Quantifier.all.map .wide, Quantifier.all.map .narrow,
      [.predicate, .firstArgument, .nextArgument, .atom], [.constant true, .constant false],
      [.bracketed]]

def Slot.all : List Slot :=
  List.flatten
    [[.bracket, .negation], Modality.all.map .modal, Modality.all.map .indexed,
      Quantifier.all.map .narrow, Quantifier.all.map .wide, Connective.all.map .right]

def State.all : List State :=
  List.flatten
    [[.start], Slot.all.map .awaiting, Slot.all.map .filled, Stratum.all.map .inner,
      Modality.all.map .subscript, [.agent true, .agent false], Quantifier.all.map .quantifier,
      [.name, .opened, .firstArgument, .arguments, .comma, .nextArgument, .closed],
      [.constant true, .constant false], [.bracketed], Base.all.map .base]

def Nonterminal.all : List Nonterminal :=
  List.flatten
    [[.goal], Stratum.all.map .stratum, Base.all.map .base, [.agent, .arguments]]

def Symbol.all : List Symbol := Kind.all.map .token ++ Nonterminal.all.map .phrase

theorem Rule.mem_all (rule : Rule) : rule ∈ Rule.all := by
  cases rule with
  | loosen s => cases s <;> decide
  | binary op => cases op <;> decide
  | modal op | indexed op | wide op | narrow op => cases op <;> decide
  | base b => cases b <;> decide
  | agent b | constant b => cases b <;> decide
  | _ => decide

theorem Slot.mem_all (slot : Slot) : slot ∈ Slot.all := by
  cases slot with
  | modal op | indexed op | wide op | narrow op | right op => cases op <;> decide
  | _ => decide

theorem State.mem_all (state : State) : state ∈ State.all := by
  cases state with
  | awaiting slot | filled slot => simp [State.all, slot.mem_all]
  | inner s => cases s <;> decide
  | subscript op | quantifier op => cases op <;> decide
  | agent b | constant b => cases b <;> decide
  | base b => cases b <;> decide
  | _ => decide

theorem Symbol.mem_all (symbol : Symbol) : symbol ∈ Symbol.all := by
  cases symbol with
  | token kind => simp [Symbol.all, kind.mem_all]
  | phrase made =>
      cases made with
      | stratum s => cases s <;> decide
      | base b => cases b <;> decide
      | _ => decide

namespace State

/-- What an item of the kernel wants next leads to a state with the item behind it. -/
theorem advance_of_kernel : ∀ state ∈ State.all, ∀ item ∈ state.kernel, ∀ symbol ∈ item.next?,
    ∃ next ∈ state.step? symbol, item.advance ∈ next.kernel := by
  decide +kernel

/-- What the body of a rule begins with leads on where the rule's result does. -/
theorem advance_of_beginning : ∀ state ∈ State.all, ∀ rule ∈ Rule.all,
    (state.goto rule.result).isSome = true →
      ∀ symbol ∈ rule.body[0]?, ∃ next ∈ state.step? symbol, ⟨rule, 1⟩ ∈ next.kernel := by
  decide +kernel

/-- An item behind a symbol was possible in front of it. -/
theorem kernel_of_step? : ∀ state ∈ State.all, ∀ symbol ∈ Symbol.all,
    ∀ next ∈ state.step? symbol, ∀ item ∈ next.kernel,
      item.dot ≠ 0 ∧ item.rule.body[item.dot - 1]? = some symbol ∧
        (⟨item.rule, item.dot - 1⟩ ∈ state.kernel ∨
          item.dot - 1 = 0 ∧ (state.goto item.rule.result).isSome = true) := by
  decide +kernel

/-- The possible items are those of the kernel, and the beginnings of the rules for what the state
    can go on with. -/
theorem has_iff {state : State} {item : Item} :
    state.Has item ↔
      item ∈ state.kernel ∨ item.dot = 0 ∧ (state.goto item.rule.result).isSome = true := by
  constructor
  · intro has
    induction has with
    | kernel member => exact .inl member
    | @predicted item rule has wants ih =>
        have leads : ∃ next, state.step? (.phrase rule.result) = some next := by
          rcases ih with member | ⟨atStart, leads⟩
          · obtain ⟨next, going, -⟩ :=
              advance_of_kernel state state.mem_all item member _ wants
            exact ⟨next, going⟩
          · rw [Item.next?, atStart] at wants
            obtain ⟨next, going, -⟩ :=
              advance_of_beginning state state.mem_all item.rule item.rule.mem_all leads _ wants
            exact ⟨next, going⟩
        exact .inr ⟨rfl, Option.isSome_iff_exists.2 leads⟩
  · rintro (member | ⟨atStart, leads⟩)
    · exact .kernel member
    · obtain ⟨rule, dot⟩ := item
      cases atStart
      exact has_of_goto leads

/-- The state behind a symbol has just the items that can advance over it, and there is none where
    no item can. -/
theorem step?_kernel_iff (state : State) (symbol : Symbol) (item : Item) :
    (∃ next, state.step? symbol = some next ∧ item ∈ next.kernel) ↔
      ∃ before, state.Has before ∧ before.next? = some symbol ∧ before.advance = item := by
  constructor
  · rintro ⟨next, going, member⟩
    obtain ⟨behind, passes, possible⟩ :=
      kernel_of_step? state state.mem_all symbol symbol.mem_all next going item member
    refine ⟨⟨item.rule, item.dot - 1⟩, has_iff.2 possible, passes, ?_⟩
    rw [Item.advance, Nat.sub_add_cancel (Nat.pos_of_ne_zero behind)]
  · rintro ⟨before, has, passes, rfl⟩
    rcases has_iff.1 has with member | ⟨atStart, leads⟩
    · exact advance_of_kernel state state.mem_all before member symbol passes
    · obtain ⟨rule, dot⟩ := before
      cases atStart
      exact advance_of_beginning state state.mem_all rule rule.mem_all leads symbol passes

/-- Symbols in front of an operand at a place. -/
def inFrontOf : Slot → List Symbol
  | .bracket => [.token .opening]
  | .negation => [.token .negation]
  | .modal op => [.token op.kind]
  | .indexed op => [.token op.kind, .token .underscore, .phrase .agent]
  | .narrow op => [.token op.kind, .token .letter]
  | .wide op => [.token op.kind, .token .letter, .token .dot]
  | .right op => [.phrase (.stratum op.left), .token op.kind]

/-- Symbols that lead from the start to a state. -/
def path : State → List Symbol
  | start => []
  | awaiting slot => inFrontOf slot
  | filled slot => inFrontOf slot ++ [.phrase (.stratum slot.wants)]
  | inner s => [.phrase (.stratum s)]
  | subscript op => [.token op.kind, .token .underscore]
  | agent isLetter => [.token .box, .token .underscore, .token (agentKind isLetter)]
  | quantifier op => [.token op.kind]
  | name => [.token .letter]
  | opened => [.token .letter, .token .opening]
  | firstArgument => [.token .letter, .token .opening, .token .letter]
  | arguments => [.token .letter, .token .opening, .phrase .arguments]
  | comma => [.token .letter, .token .opening, .phrase .arguments, .token .comma]
  | nextArgument =>
    [.token .letter, .token .opening, .phrase .arguments, .token .comma, .token .letter]
  | closed => [.token .letter, .token .opening, .phrase .arguments, .token .closing]
  | constant value => [.token (constantKind value)]
  | bracketed => [.token .opening, .phrase (.stratum .formula), .token .closing]
  | base b => [.phrase (.base b)]

/-- Every state is reached from the start. -/
theorem foldlM_step?_path (state : State) : state.path.foldlM step? start = some state := by
  cases state with
  | awaiting slot | filled slot =>
      cases slot with
      | modal op | indexed op | narrow op | wide op | right op => cases op <;> rfl
      | _ => rfl
  | inner s => cases s <;> rfl
  | subscript op | quantifier op => cases op <;> rfl
  | agent b | constant b => cases b <;> rfl
  | _ => rfl

/-- No two states have the same items. -/
theorem kernel_injective : Function.Injective kernel := by
  have distinct : ∀ first ∈ State.all, ∀ second ∈ State.all,
      first.kernel = second.kernel → first = second := by
    decide +kernel
  exact fun first second same => distinct first first.mem_all second second.mem_all same

end State

/-! ### Lookaheads -/

/-- What the tokens of some symbols can begin with, when a lookahead follows them. -/
inductive Begins : List Symbol → Lookahead → Lookahead → Prop where
  | nil (ahead : Lookahead) : Begins [] ahead ahead
  | token (kind : Kind) (rest : List Symbol) (ahead : Lookahead) :
      Begins (.token kind :: rest) ahead (.token kind)
  | phrase (rule : Rule) {rest : List Symbol} {ahead first : Lookahead}
      (begins : Begins (rule.body ++ rest) ahead first) :
      Begins (.phrase rule.result :: rest) ahead first

/-- The lookaheads with which an item is possible in a state, over all ways into the state: the goal
    ends with the text, an item keeps its lookahead as it advances, and a rule that is wanted has in
    front of it what can stand behind what is wanted. -/
inductive Looks : State → Item → Lookahead → Prop where
  | start : Looks .start ⟨.loosen .formula, 0⟩ .ending
  | advance {state next : State} {item : Item} {ahead : Lookahead} {symbol : Symbol}
      (looks : Looks state item ahead) (passes : item.next? = some symbol)
      (going : state.step? symbol = some next) : Looks next item.advance ahead
  | predict {state : State} {item : Item} {ahead first : Lookahead} (rule : Rule)
      (looks : Looks state item ahead) (wants : item.next? = some (.phrase rule.result))
      (begins : Begins (item.rule.body.drop (item.dot + 1)) ahead first) :
      Looks state ⟨rule, 0⟩ first

theorem Looks.has {state : State} {item : Item} {ahead : Lookahead}
    (looks : Looks state item ahead) : state.Has item := by
  induction looks with
  | start => exact .kernel List.mem_cons_self
  | @advance state next item ahead symbol looks passes going ih =>
      obtain ⟨next', going', member⟩ :=
        (State.step?_kernel_iff state symbol _).2 ⟨item, ih, passes, rfl⟩
      rw [going] at going'
      cases going'
      exact .kernel member
  | predict rule looks wants begins ih => exact .predicted rule ih wants

/-- What begins with an operand of a modal operator. -/
def Symbol.isTight : Symbol → Bool
  | .token kind => kind.beginsTight
  | .phrase (.stratum .tight) => true
  | .phrase (.base _) => true
  | _ => false

theorem Begins.beginsTight {symbols rest : List Symbol} {symbol : Symbol} {ahead first : Lookahead}
    (begins : Begins symbols ahead first) (symbols_eq : symbols = symbol :: rest)
    (tight : symbol.isTight = true) :
    ∃ kind : Kind, first = .token kind ∧ kind.beginsTight = true := by
  induction begins generalizing symbol rest with
  | nil => cases symbols_eq
  | token kind =>
      cases symbols_eq
      exact ⟨kind, rfl, tight⟩
  | phrase rule begins ih =>
      cases symbols_eq
      cases rule with
      | loosen s => cases s <;> cases tight
      | binary op => cases op <;> cases tight
      | modal op | indexed op | wide op | narrow op => exact ih rfl (by cases op <;> rfl)
      | constant value => exact ih rfl (by cases value <;> rfl)
      | base | predicate | atom | bracketed => exact ih rfl rfl
      | _ => cases tight

/-- Before which lookaheads what is made can end: the rules that make it all have the same. -/
def Nonterminal.endsBefore : Nonterminal → Lookahead → Bool
  | goal, ahead => ahead == .ending
  | stratum _, ahead => ahead.follower?.isSome
  | base _, ahead => ahead.follower?.isSome
  | agent, .token kind => kind.beginsTight
  | agent, .ending => false
  | .arguments, ahead => ahead == .token .comma || ahead == .token .closing

theorem Rule.follows_eq (rule : Rule) (ahead : Lookahead) :
    rule.follows ahead = rule.result.endsBefore ahead := by
  cases rule with
  | loosen s => cases s <;> rfl
  | agent => cases ahead <;> rfl
  | _ => rfl

theorem Begins.eq_of_nil {ahead first : Lookahead} (begins : Begins [] ahead first) :
    first = ahead := by
  cases begins
  rfl

theorem Begins.eq_of_token {kind : Kind} {rest : List Symbol} {ahead first : Lookahead}
    (begins : Begins (.token kind :: rest) ahead first) : first = .token kind := by
  cases begins
  rfl

/-- What a rule wants can only end before lookaheads that the rule's body, or what follows the rule,
    begins with. -/
theorem endsBefore_of_begins {rule : Rule} {dot : Nat} {made : Nonterminal}
    {ahead first : Lookahead} (wants : rule.body[dot]? = some (.phrase made))
    (follows : rule.follows ahead = true) (begins : Begins (rule.body.drop (dot + 1)) ahead first) :
    made.endsBefore first = true := by
  cases rule with
  | loosen s =>
      rcases dot with _ | dot <;> cases wants
      rw [begins.eq_of_nil]
      cases s with
      | formula => rw [beq_iff_eq.1 follows]; rfl
      | _ => exact follows
  | binary op =>
      rcases dot with _ | _ | _ | dot <;> cases wants
      · rw [begins.eq_of_token]
        cases op <;> rfl
      · rw [begins.eq_of_nil]
        exact follows
  | negation | modal op =>
      rcases dot with _ | _ | dot <;> cases wants
      rw [begins.eq_of_nil]
      exact follows
  | indexed op =>
      rcases dot with _ | _ | _ | _ | dot <;> cases wants
      · obtain ⟨kind, rfl, tight⟩ := begins.beginsTight rfl rfl
        exact tight
      · rw [begins.eq_of_nil]
        exact follows
  | base b =>
      rcases dot with _ | dot <;> cases wants
      rw [begins.eq_of_nil]
      exact follows
  | wide op =>
      rcases dot with _ | _ | _ | _ | dot <;> cases wants
      rw [begins.eq_of_nil]
      exact follows
  | narrow op =>
      rcases dot with _ | _ | _ | dot <;> cases wants
      rw [begins.eq_of_nil]
      exact follows
  | predicate =>
      rcases dot with _ | _ | _ | _ | dot <;> cases wants
      rw [begins.eq_of_token]
      rfl
  | nextArgument =>
      rcases dot with _ | _ | _ | dot <;> cases wants
      rw [begins.eq_of_token]
      rfl
  | bracketed =>
      rcases dot with _ | _ | _ | dot <;> cases wants
      rw [begins.eq_of_token]
      rfl
  | agent | firstArgument | atom | constant =>
      rcases dot with _ | dot <;> cases wants

/-- No lookahead comes to an item but those of its rule. -/
theorem Looks.follows {state : State} {item : Item} {ahead : Lookahead}
    (looks : Looks state item ahead) : item.rule.follows ahead = true := by
  induction looks with
  | start => rfl
  | advance looks passes going ih => exact ih
  | predict rule looks wants begins ih =>
      rw [rule.follows_eq]
      exact endsBefore_of_begins wants ih begins

/-- Something is wanted in a state, and a lookahead can stand behind it. -/
def Awaits (state : State) (made : Nonterminal) (ahead : Lookahead) : Prop :=
  ∃ item behind, Looks state item behind ∧ item.next? = some (.phrase made) ∧
    Begins (item.rule.body.drop (item.dot + 1)) behind ahead

section Awaiting

variable {state last : State} {ahead : Lookahead}

theorem Awaits.predict {made : Nonterminal} (awaits : Awaits state made ahead) (rule : Rule)
    (makes : rule.result = made) : Looks state ⟨rule, 0⟩ ahead := by
  obtain ⟨item, behind, looks, wants, begins⟩ := awaits
  exact .predict rule looks (by rw [wants, makes]) begins

/-- A state that wants a phrase wants every tighter one in its place. -/
theorem Awaits.tighten {s target : Stratum} (awaits : Awaits state (.stratum s) ahead)
    (tighter : s.level ≤ target.level) : Awaits state (.stratum target) ahead := by
  obtain ⟨gap, levels⟩ := Nat.exists_eq_add_of_le tighter
  induction gap generalizing target with
  | zero =>
      obtain rfl := Stratum.level_injective levels
      exact awaits
  | succ gap ih =>
      have notFormula : target ≠ .formula := by
        rintro rfl
        simp [Stratum.level] at levels
      obtain ⟨s', below, result_eq⟩ := Rule.exists_result_loosen notFormula
      have awaits' := ih (by omega : s.level ≤ s'.level) (by omega)
      exact ⟨⟨.loosen target, 0⟩, ahead, awaits'.predict _ result_eq, rfl, .nil ahead⟩

theorem Awaits.base {s : Stratum} (awaits : Awaits state (.stratum s) ahead) (b : Base) :
    Awaits state (.base b) ahead :=
  ⟨⟨.base b, 0⟩, ahead, (awaits.tighten s.level_le_tight).predict (.base b) rfl, rfl, .nil ahead⟩

/-- A left operand is wanted in front of its connective. -/
theorem Awaits.left {s : Stratum} (awaits : Awaits state (.stratum s) ahead) (op : Connective)
    (looser : s.level ≤ op.stratum.level) : Awaits state (.stratum op.left) (.token op.kind) :=
  ⟨⟨.binary op, 0⟩, ahead, (awaits.tighten looser).predict (.binary op) rfl, rfl, .token ..⟩

/-- An item keeps its lookahead on the way over symbols of its rule. -/
theorem Looks.run {rule : Rule} {dot : Nat} (looks : Looks state ⟨rule, dot⟩ ahead)
    (symbols : List Symbol) (passes : symbols <+: rule.body.drop dot)
    (reached : symbols.foldlM State.step? state = some last) :
    Looks last ⟨rule, dot + symbols.length⟩ ahead := by
  induction symbols generalizing state dot with
  | nil =>
      cases reached
      exact looks
  | cons symbol symbols ih =>
      obtain ⟨rest, body_eq⟩ := passes
      rw [List.foldlM_cons, Option.bind_eq_bind, Option.bind_eq_some_iff] at reached
      obtain ⟨next, going, reached⟩ := reached
      have next_eq : (⟨rule, dot⟩ : Item).next? = some symbol := by
        have head := congrArg List.head? body_eq
        rw [List.cons_append, List.head?_cons, List.head?_drop] at head
        exact head.symm
      have passes' : symbols <+: rule.body.drop (dot + 1) := by
        have tail := congrArg List.tail body_eq
        rw [List.cons_append, List.tail_cons, List.tail_drop] at tail
        exact ⟨rest, tail⟩
      have looks' := ih (looks.advance next_eq going) passes' reached
      rw [List.length_cons, Nat.add_comm symbols.length, ← Nat.add_assoc]
      exact looks'

/-- A rule for what a state wants is complete behind its body. -/
theorem Awaits.complete {rule : Rule} (awaits : Awaits state rule.result ahead)
    (reached : rule.body.foldlM State.step? state = some last) :
    Looks last ⟨rule, rule.body.length⟩ ahead := by
  have looks := (awaits.predict rule rfl).run rule.body (List.prefix_refl _) reached
  rw [Nat.zero_add] at looks
  exact looks

/-- The body of a dotted quantifier ends where the whole phrase does. -/
theorem Awaits.wide {s : Stratum} (awaits : Awaits state (.stratum s) ahead) (op : Quantifier)
    (quantified : state.shift op.kind = some (.quantifier op)) :
    Awaits (.awaiting (.wide op)) (.stratum .formula) ahead := by
  have looks := (awaits.base .quantified).predict (.wide op) rfl
  have reached : [.token op.kind, .token .letter, .token .dot].foldlM State.step? state =
      some (.awaiting (.wide op)) := by
    simp only [List.foldlM_cons, State.step?, quantified]
    rfl
  exact ⟨_, _, looks.run _ ⟨_, rfl⟩ reached, rfl, .nil _⟩

end Awaiting

theorem awaits_start : Awaits .start (.stratum .formula) .ending :=
  ⟨_, _, .start, rfl, .nil _⟩

theorem awaits_bracket : Awaits (.awaiting .bracket) (.stratum .formula) (.token .closing) :=
  ⟨_, _, ((awaits_start.base .atom).predict .bracketed rfl).advance rfl rfl, rfl, .token ..⟩

/-- In the body of a dotted quantifier a whole formula is wanted before every follower. Outside of
    brackets it is reached before the end and before each connective, and inside of them before a
    closing bracket. -/
theorem awaits_wide (op : Quantifier) (next : Follower) :
    Awaits (.awaiting (.wide op)) (.stratum .formula) next.ahead := by
  cases next with
  | connective later =>
      exact (awaits_start.left later (Nat.zero_le _)).wide op (by cases op <;> rfl)
  | closing => exact awaits_bracket.wide op (by cases op <;> rfl)
  | ending => exact awaits_start.wide op (by cases op <;> rfl)

/-- What can begin an operand of a modal operator does begin one. -/
theorem begins_tight {kind : Kind} (tight : kind.beginsTight = true) (ahead : Lookahead) :
    Begins [.phrase (.stratum .tight)] ahead (.token kind) := by
  have modal (op : Modality) : Begins [.phrase (.stratum .tight)] ahead (.token op.kind) :=
    .phrase (.modal op) (.token ..)
  have base (b : Base) {first : Lookahead} (begins : Begins [.phrase (.base b)] ahead first) :
      Begins [.phrase (.stratum .tight)] ahead first := .phrase (.base b) begins
  have quantified (op : Quantifier) : Begins [.phrase (.base .quantified)] ahead (.token op.kind) :=
    .phrase (.narrow op) (.token ..)
  have constant (value : Bool) :
      Begins [.phrase (.base .atom)] ahead (.token (constantKind value)) :=
    .phrase (.constant value) (.token ..)
  cases kind with
  | letter => exact base .atom (.phrase .atom (.token ..))
  | verum => exact base .atom (constant true)
  | falsum => exact base .atom (constant false)
  | box => exact modal .box
  | diamond => exact modal .diamond
  | universal => exact base .quantified (quantified .universal)
  | existential => exact base .quantified (quantified .existential)
  | opening => exact base .atom (.phrase .bracketed (.token ..))
  | _ => cases tight

/-- Behind an underscore an agent is wanted, and the operand of the modal operator behind it. -/
theorem awaits_subscript (op : Modality) {kind : Kind} (tight : kind.beginsTight = true) :
    Awaits (.subscript op) .agent (.token kind) := by
  have looks := (awaits_start.tighten (Nat.zero_le _)).predict (.indexed op) rfl
  have reached : [.token op.kind, .token .underscore].foldlM State.step? .start =
      some (.subscript op) := by
    cases op <;> rfl
  exact ⟨_, _, looks.run _ ⟨_, rfl⟩ reached, rfl, begins_tight tight _⟩

/-- The arguments of a predicate end before its bracket, and before a comma where more of them are
    to come. -/
theorem awaits_opened {ahead : Lookahead}
    (separates : ahead = .token .comma ∨ ahead = .token .closing) :
    Awaits .opened .arguments ahead := by
  have looks := (awaits_start.base .predicate).predict .predicate rfl
  have reached : [.token .letter, .token .opening].foldlM State.step? .start = some .opened := rfl
  have whole : Awaits .opened .arguments (.token .closing) :=
    ⟨_, _, looks.run _ ⟨_, rfl⟩ reached, rfl, .token ..⟩
  rcases separates with rfl | rfl
  · exact ⟨_, _, whole.predict .nextArgument rfl, rfl, .token ..⟩
  · exact whole

/-! ### When a rule is reduced -/

/-- The state behind the body of a rule. -/
def Rule.behind : Rule → State
  | loosen s => .inner s
  | binary op => .filled (.right op)
  | negation => .filled .negation
  | modal op => .filled (.modal op)
  | indexed op => .filled (.indexed op)
  | base b => .base b
  | agent isLetter => .agent isLetter
  | wide op => .filled (.wide op)
  | narrow op => .filled (.narrow op)
  | predicate => .closed
  | firstArgument => .firstArgument
  | nextArgument => .nextArgument
  | atom => .name
  | constant value => .constant value
  | bracketed => .bracketed

theorem State.completed?_eq_some_iff {state : State} {rule : Rule} :
    state.completed? = some rule ↔ rule.behind = state := by
  constructor
  · intro complete
    cases state with
    | filled slot => cases slot <;> cases complete <;> rfl
    | _ => cases complete <;> rfl
  · rintro rfl
    cases rule <;> rfl

/-- A rule is complete in the state that has the item with the place behind its body. -/
theorem State.completed?_iff_kernel {state : State} {rule : Rule} :
    state.completed? = some rule ↔ ⟨rule, rule.body.length⟩ ∈ state.kernel := by
  have agree : ∀ state ∈ State.all, ∀ rule ∈ Rule.all,
      state.completed? = some rule ↔ ⟨rule, rule.body.length⟩ ∈ state.kernel := by
    decide +kernel
  exact agree state state.mem_all rule rule.mem_all

/-- Before every lookahead of a rule there is a text whose reading comes to the end of its body. -/
theorem looks_behind {rule : Rule} {ahead : Lookahead} (follows : rule.follows ahead = true) :
    Looks rule.behind ⟨rule, rule.body.length⟩ ahead := by
  have stratum (s : Stratum) (ends : ahead.follower?.isSome = true) :
      Awaits (.awaiting (.wide .universal)) (.stratum s) ahead := by
    obtain ⟨next, follower⟩ := Option.isSome_iff_exists.1 ends
    rw [Lookahead.follower?_eq_some_iff.1 follower]
    exact (awaits_wide .universal next).tighten (Nat.zero_le _)
  have base (b : Base) (ends : ahead.follower?.isSome = true) :
      Awaits (.awaiting (.wide .universal)) (.base b) ahead := (stratum .tight ends).base b
  cases rule with
  | loosen s =>
      cases s with
      | formula =>
          obtain rfl := beq_iff_eq.1 follows
          exact Looks.start.advance rfl rfl
      | _ => exact Awaits.complete (stratum _ follows) rfl
  | binary op => exact Awaits.complete (stratum _ follows) (by cases op <;> rfl)
  | negation => exact Awaits.complete (stratum _ follows) rfl
  | modal op | indexed op => exact Awaits.complete (stratum _ follows) (by cases op <;> rfl)
  | base b => exact Awaits.complete (stratum _ follows) rfl
  | wide op | narrow op => exact Awaits.complete (base _ follows) (by cases op <;> rfl)
  | constant value => exact Awaits.complete (base _ follows) (by cases value <;> rfl)
  | predicate | atom | bracketed => exact Awaits.complete (base _ follows) rfl
  | agent isLetter =>
      cases ahead with
      | token kind =>
          exact Awaits.complete (awaits_subscript .box follows) (by cases isLetter <;> rfl)
      | ending => cases follows
  | firstArgument | nextArgument =>
      simp only [Rule.follows, Bool.or_eq_true, beq_iff_eq] at follows
      exact Awaits.complete (awaits_opened follows) rfl

/-- A rule is complete in a state and reduced before a lookahead just where the reading of some text
    comes there with it. -/
theorem reduces_iff_looks {state : State} {rule : Rule} {ahead : Lookahead} :
    state.completed? = some rule ∧ rule.follows ahead = true ↔
      Looks state ⟨rule, rule.body.length⟩ ahead := by
  constructor
  · rintro ⟨complete, follows⟩
    obtain rfl := State.completed?_eq_some_iff.1 complete
    exact looks_behind follows
  · intro looks
    refine ⟨?_, looks.follows⟩
    rcases State.has_iff.1 looks.has with member | ⟨atStart, -⟩
    · exact State.completed?_iff_kernel.2 member
    · exact absurd (List.length_eq_zero_iff.1 atStart) rule.body_ne_nil

/-! ### Precedence -/

/-- How tightly a token binds, where it could be shifted or a rule be reduced. -/
def tokenPrecedence (kind : Kind) : Nat :=
  match kind.connective? with
  | some op => op.rank + 2
  | none => 0

/-- How tightly a rule binds. -/
def Rule.precedence : Rule → Nat
  | binary op => tokenPrecedence op.kind
  | loosen .conjunction => 1
  | loosen .disjunction => 1
  | loosen .implication => 1
  | _ => 0

/-- Where a complete rule gives way to a token that is shifted, it binds less tightly. -/
theorem precedence_lt_of_shift {state next : State} {rule : Rule} {kind : Kind}
    (complete : state.completed? = some rule) (follows : rule.follows (.token kind) = true)
    (shifts : state.shift kind = some next) : rule.precedence < tokenPrecedence kind := by
  have binds : ∀ state ∈ State.all, ∀ rule ∈ state.completed?, ∀ kind ∈ Kind.all,
      rule.follows (.token kind) = true → (state.shift kind).isSome = true →
        rule.precedence < tokenPrecedence kind := by
    decide +kernel
  exact binds state state.mem_all rule complete kind kind.mem_all follows
    (Option.isSome_iff_exists.2 ⟨next, shifts⟩)

end ModalLanguage.Automaton
