/-
Module: ModalLanguage.Automaton.Engine
Purpose: Reading tokens by the table. Every state on the stack stands with the value of what was
  shifted or made; a reduction applies its rule to the values, which fails for an unknown agent and
  for a formula that exceeds the limit. Without the values a run of the engine is a simulation
  (`simulate_states`), so each of them ends.
Main exports: Value, Cell, Rule.build, Verdict, Round, round, settle, readTokens?, simulate_states
-/
import ModalLanguage.Automaton.Simulation
import ModalLanguage.Parser.Step

namespace ModalLanguage.Automaton

/-- What stands behind a state: a token that was shifted, or what a rule has made. The arguments of a
    predicate are at least one. -/
inductive Value where
  | token (token : Token)
  | formula (f : Formula)
  | agent (named : Agent)
  | arguments (first : String) (rest : List String)
deriving DecidableEq, Repr

/-- A state of the stack with its value. -/
structure Cell where
  state : State
  value : Value
deriving DecidableEq, Repr

/-- The formula that an operator makes, unless it exceeds the limit. -/
def checked (limit : Limit) (operator : Token) (f : Formula) : Except Failure Value :=
  if limit.allows f then .ok (.formula f) else .error (.tooDeep operator)

/-- What a rule makes of the values of its body, if they are such values. -/
def Rule.build (limit : Limit) : Rule → List Value → Option (Except Failure Value)
  | loosen _, [.formula f] => some (.ok (.formula f))
  | binary op, [.formula left, .token operator, .formula right] =>
    some (checked limit operator (.binary op left right))
  | negation, [.token operator, .formula f] => some (checked limit operator (.negation f))
  | modal op, [.token operator, .formula f] => some (checked limit operator (.modal op none f))
  | indexed op, [.token operator, .token _, .agent named, .formula f] =>
    some (checked limit operator (.modal op (some named) f))
  | base _, [.formula f] => some (.ok (.formula f))
  | agent _, [.token name] =>
    match Agent.ofName? name.value with
    | some named => some (.ok (.agent named))
    | none => some (.error (.unknownAgent name))
  | wide op, [.token operator, .token bound, .token _, .formula f] =>
    some (checked limit operator (.quantified op bound.value f))
  | narrow op, [.token operator, .token bound, .formula f] =>
    some (checked limit operator (.quantified op bound.value f))
  | predicate, [.token name, .token _, .arguments first rest, .token _] =>
    some (.ok (.formula (.predicate name.value first rest)))
  | firstArgument, [.token name] => some (.ok (.arguments name.value []))
  | nextArgument, [.arguments first rest, .token _, .token name] =>
    some (.ok (.arguments first (rest ++ [name.value])))
  | atom, [.token name] => some (.ok (.formula (.atom name.value)))
  | constant value, [.token _] => some (.ok (.formula (.constant value)))
  | bracketed, [.token _, .formula f, .token _] => some (.ok (.formula f))
  | _, _ => none

/-- What the reading of one token, or of the end, ends with. -/
inductive Verdict where
  | shifted (stack : List Cell)
  | accepted (f : Formula)
  /-- Nothing is prescribed for the token. -/
  | refused
  /-- A rule has failed. -/
  | failed (failure : Failure)
  /-- The stack does not hold what the table presumes. -/
  | broken
deriving DecidableEq, Repr

/-- What one round of the engine comes to. -/
inductive Round where
  | reduced (stack : List Cell)
  | settled (verdict : Verdict)
deriving DecidableEq, Repr

/-- The lookahead that a token is, or the end. -/
def aheadOf : Option Token → Lookahead
  | some found => .token found.kind
  | none => .ending

/-- The state on top of a stack, below which nothing was read. -/
def top : List Cell → State
  | [] => .start
  | cell :: _ => cell.state

/-- The states of a stack. The one at the bottom has no value. -/
def states (stack : List Cell) : List State := stack.map Cell.state ++ [.start]

/-- Put what a rule has made onto the stack. -/
def push (made : Nonterminal) (value : Value) (stack : List Cell) : Round :=
  match (top stack).goto made with
  | some next => .reduced (⟨next, value⟩ :: stack)
  | none => .settled .broken

/-- Replace the cells of a rule's body by the one of what the rule makes. -/
def reduce (limit : Limit) (rule : Rule) (stack : List Cell) : Round :=
  match rule.build limit ((stack.take rule.body.length).map Cell.value).reverse with
  | some (.ok value) => push rule.result value (stack.drop rule.body.length)
  | some (.error failure) => .settled (.failed failure)
  | none => .settled .broken

/-- Look up what the table prescribes before a token, or before the end, and do it. -/
def round (limit : Limit) (found : Option Token) (stack : List Cell) : Round :=
  match (top stack).action (aheadOf found) with
  | some (.shift next) =>
    match found with
    | some token => .settled (.shifted (⟨next, .token token⟩ :: stack))
    | none => .settled .broken
  | some (.reduce rule) => reduce limit rule stack
  | some .accept =>
    match stack with
    | ⟨_, .formula f⟩ :: _ => .settled (.accepted f)
    | _ => .settled .broken
  | none => .settled .refused

/-! ### Rounds and passes -/

/-- A rule is only applied to as many values as its body has symbols. -/
theorem Rule.length_of_build {limit : Limit} {rule : Rule} {values : List Value}
    {made : Except Failure Value} (built : rule.build limit values = some made) :
    values.length = rule.body.length := by
  unfold Rule.build at built
  split at built <;> first | rfl | cases built

theorem head_states (stack : List Cell) :
    ∃ below, states stack = top stack :: below := by
  cases stack with
  | nil => exact ⟨[], rfl⟩
  | cons cell below => exact ⟨states below, rfl⟩

theorem drop_states {stack : List Cell} {count : Nat} (inside : count ≤ stack.length) :
    (states stack).drop count = states (stack.drop count) := by
  rw [states, List.drop_append_of_le_length (by simpa using inside), ← List.map_drop]
  rfl

/-- What a reduction takes and leaves. -/
theorem reduce_eq_reduced {limit : Limit} {rule : Rule} {stack stack' : List Cell}
    (reduced : reduce limit rule stack = .reduced stack') :
    ∃ value next, rule.body.length ≤ stack.length ∧
      (top (stack.drop rule.body.length)).goto rule.result = some next ∧
      stack' = ⟨next, value⟩ :: stack.drop rule.body.length := by
  unfold reduce at reduced
  split at reduced
  · rename_i value built
    have count := Rule.length_of_build built
    simp only [List.length_reverse, List.length_map, List.length_take] at count
    unfold push at reduced
    split at reduced
    · rename_i next going
      cases reduced
      exact ⟨value, next, by omega, going, rfl⟩
    · cases reduced
  · cases reduced
  · cases reduced

/-- Whether a verdict lets the token pass, if it tells. -/
def Verdict.answer? : Verdict → Option Bool
  | shifted _ => some true
  | accepted _ => some true
  | refused => some false
  | failed _ => none
  | broken => none

/-- A reduction that settles the token has failed. -/
theorem reduce_answer? {limit : Limit} {rule : Rule} {stack : List Cell} {verdict : Verdict}
    (settled : reduce limit rule stack = .settled verdict) : verdict.answer? = none := by
  unfold reduce at settled
  split at settled
  · unfold push at settled
    split at settled <;> cases settled
    rfl
  · cases settled
    rfl
  · cases settled
    rfl

/-- A round that reduces is a pass of the simulation on the states. -/
theorem pass_states {limit : Limit} {found : Option Token} {stack stack' : List Cell}
    (reduced : round limit found stack = .reduced stack') :
    pass (aheadOf found) (states stack) = .replaced (states stack') := by
  obtain ⟨below, states_eq⟩ := head_states stack
  unfold round at reduced
  split at reduced
  · split at reduced <;> cases reduced
  · rename_i rule prescribed
    obtain ⟨value, next, inside, going, rfl⟩ := reduce_eq_reduced reduced
    obtain ⟨rest, rest_eq⟩ := head_states (stack.drop rule.body.length)
    have left := drop_states inside
    rw [states_eq, rest_eq] at left
    simp only [states_eq, pass, prescribed, left, going]
    exact congrArg _ (congrArg _ rest_eq.symm)
  · split at reduced <;> cases reduced
  · cases reduced

/-- A round that settles the token ends the simulation with the same answer. -/
theorem pass_states_of_settled {limit : Limit} {found : Option Token} {stack : List Cell}
    {verdict : Verdict} {answer : Bool} (settled : round limit found stack = .settled verdict)
    (answers : verdict.answer? = some answer) :
    pass (aheadOf found) (states stack) = .ended (.answer answer) := by
  obtain ⟨below, states_eq⟩ := head_states stack
  unfold round at settled
  split at settled
  · rename_i next prescribed
    split at settled <;> cases settled <;> cases answers
    simp only [states_eq, pass, prescribed]
  · rw [reduce_answer? settled] at answers
    cases answers
  · rename_i prescribed
    split at settled <;> cases settled <;> cases answers
    simp only [states_eq, pass, prescribed]
  · rename_i prescribed
    cases settled
    cases answers
    simp only [states_eq, pass, prescribed]

/-! ### Whole tokens -/

/-- Reduce until the token can be shifted or not. -/
def settle (limit : Limit) (found : Option Token) (stack : List Cell) : Verdict :=
  match _rounded : round limit found stack with
  | .settled verdict => verdict
  | .reduced stack' => settle limit found stack'
termination_by ((states stack).length, topRank (states stack))
decreasing_by exact pass_decreases (pass_states _rounded)

theorem settle_of_settled {limit : Limit} {found : Option Token} {stack : List Cell}
    {verdict : Verdict} (settled : round limit found stack = .settled verdict) :
    settle limit found stack = verdict := by
  rw [settle]
  split <;> simp_all

theorem settle_of_reduced {limit : Limit} {found : Option Token} {stack stack' : List Cell}
    (reduced : round limit found stack = .reduced stack') :
    settle limit found stack = settle limit found stack' := by
  rw [settle]
  split <;> simp_all

/-- Read tokens one after another, as long as they are shifted. -/
def readTokens? (limit : Limit) (stack : List Cell) (tokens : List Token) : Option (List Cell) :=
  tokens.foldlM
    (fun stack token =>
      match settle limit (some token) stack with
      | .shifted stack' => some stack'
      | _ => none)
    stack

/-- When the engine has an answer, the simulation has the same one. -/
theorem simulate_states {limit : Limit} {found : Option Token} {stack : List Cell} {answer : Bool}
    (answers : (settle limit found stack).answer? = some answer) :
    simulate (aheadOf found) (states stack) = .answer answer := by
  fun_induction settle limit found stack with
  | case1 stack verdict rounded =>
      have passed := pass_states_of_settled rounded answers
      rw [simulate]
      split <;> simp_all
  | case2 stack stack' rounded ih =>
      have passed := pass_states rounded
      rw [simulate]
      split <;> simp_all

end ModalLanguage.Automaton
