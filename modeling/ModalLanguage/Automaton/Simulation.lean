/-
Module: ModalLanguage.Automaton.Simulation
Purpose: Asking whether a token could be shifted, without shifting it. The reductions that the table
  prescribes are run on the states alone, until a token is shifted, the end is accepted, or nothing
  is prescribed. A reduction by a rule with one symbol keeps the number of states, but it leaves a
  state of smaller rank, so the passes come to an end on every stack.
Main exports: State.rank, Pass, pass, pass_decreases, simulate
-/
import ModalLanguage.Automaton.Table

namespace ModalLanguage.Automaton

/-- What a simulation ends with: its answer, or what it runs into. -/
inductive Ending where
  | answer (shifts : Bool)
  /-- A reduction has taken the state at the bottom away. -/
  | noBottom
  /-- The table has no state for what a rule has made. -/
  | noGoto
deriving DecidableEq, Repr

/-- What one pass of a simulation comes to. -/
inductive Pass where
  | replaced (states : List State)
  | ended (ending : Ending)
deriving DecidableEq, Repr

/-- Look up what the table prescribes for the state on top, which stands first, and replace the
    states of a rule by the one behind what the rule makes. -/
def pass (ahead : Lookahead) : List State → Pass
  | [] => .ended .noBottom
  | state :: below =>
    match state.action ahead with
    | none => .ended (.answer false)
    | some (.shift _) => .ended (.answer true)
    | some .accept => .ended (.answer true)
    | some (.reduce rule) =>
      match (state :: below).drop rule.body.length with
      | [] => .ended .noBottom
      | top :: rest =>
        match top.goto rule.result with
        | none => .ended .noGoto
        | some next => .replaced (next :: top :: rest)

/-! ### The passes come to an end -/

namespace State

/-- How many reductions that keep the number of states can still be made from a state. -/
def rank : State → Nat
  | inner s => s.level + 1
  | base _ => 8
  | name => 9
  | constant _ => 9
  | agent _ => 1
  | firstArgument => 1
  | _ => 0

theorem action_eq_reduce {state : State} {ahead : Lookahead} {rule : Rule}
    (prescribed : state.action ahead = some (.reduce rule)) :
    state.completed? = some rule ∧ rule ≠ .loosen .formula ∧ rule.follows ahead = true := by
  have reduced : state.reduction ahead = some (.reduce rule) := by
    unfold action at prescribed
    split at prescribed
    · cases prescribed
    · exact prescribed
  unfold reduction at reduced
  split at reduced
  · rename_i rule' complete
    split at reduced
    · rename_i follows
      split at reduced
      · cases reduced
      · rename_i notGoal
        cases reduced
        exact ⟨complete, notGoal, follows⟩
    · cases reduced
  · cases reduced

theorem goto_stratum_eq_some_iff {state next : State} {s : Stratum} :
    state.goto (.stratum s) = some next ↔
      ∃ wanted, state.hole? = some wanted ∧ wanted.level ≤ s.level ∧ state.place s = next := by
  rw [goto]
  cases state.hole? <;> simp

theorem goto_base_eq_some_iff {state next : State} {b : Base} :
    state.goto (.base b) = some next ↔ state.hole?.isSome = true ∧ .base b = next := by
  simp [goto]

/-- A phrase in the place of an operand is left with the rank of its stratum at most. -/
theorem rank_place_le (state : State) (s : Stratum) : (state.place s).rank ≤ s.level + 1 := by
  unfold place
  split
  · split
    · exact Nat.zero_le _
    · exact Nat.le_refl _
  · exact Nat.le_refl _

/-- A rule with one symbol takes a state to one of smaller rank. -/
theorem rank_goto_lt {state below next : State} {rule : Rule}
    (complete : state.completed? = some rule) (single : rule.body.length = 1)
    (going : below.goto rule.result = some next) : next.rank < state.rank := by
  have stratum {s : Stratum} (loose : s.level + 1 < state.rank)
      (going : below.goto (.stratum s) = some next) : next.rank < state.rank := by
    obtain ⟨wanted, -, -, rfl⟩ := goto_stratum_eq_some_iff.1 going
    exact Nat.lt_of_le_of_lt (rank_place_le below s) loose
  cases state with
  | filled slot => cases slot <;> cases complete <;> cases single
  | inner s =>
      cases complete
      cases s with
      | formula => cases going
      | _ => exact stratum (by decide) going
  | base b =>
      cases complete
      exact stratum (Nat.lt_succ_self _) going
  | name | constant =>
      cases complete
      obtain ⟨-, rfl⟩ := goto_base_eq_some_iff.1 going
      exact Nat.lt_succ_self _
  | agent | firstArgument =>
      cases complete
      cases below <;> cases going
      exact Nat.zero_lt_one
  | nextArgument | closed | bracketed =>
      cases complete
      cases single
  | _ => cases complete

end State

/-- The rank of the state on top. -/
def topRank : List State → Nat
  | [] => 0
  | state :: _ => state.rank

/-- A pass that replaces states leaves fewer of them, or as many with one of smaller rank on top. -/
theorem pass_decreases {ahead : Lookahead} {states states' : List State}
    (replaced : pass ahead states = .replaced states') :
    Prod.Lex (· < ·) (· < ·) (states'.length, topRank states') (states.length, topRank states) := by
  cases states with
  | nil => cases replaced
  | cons state below =>
      simp only [pass] at replaced
      split at replaced
      · cases replaced
      · cases replaced
      · cases replaced
      · rename_i rule prescribed
        split at replaced
        · cases replaced
        · rename_i top rest left
          split at replaced
          · cases replaced
          · rename_i next going
            cases replaced
            obtain ⟨complete, -, -⟩ := State.action_eq_reduce prescribed
            have count := congrArg List.length left
            rw [List.length_drop, List.length_cons, List.length_cons] at count
            have atLeast : 0 < rule.body.length := List.length_pos_iff.2 rule.body_ne_nil
            by_cases single : rule.body.length = 1
            · have same : rest.length + 2 = below.length + 1 := by omega
              rw [Prod.lex_def]
              exact .inr ⟨same, State.rank_goto_lt complete single going⟩
            · refine Prod.Lex.left _ _ ?_
              simp only [List.length_cons]
              omega

/-- Run passes until one ends the simulation. -/
def simulate (ahead : Lookahead) (states : List State) : Ending :=
  match _passed : pass ahead states with
  | .ended ending => ending
  | .replaced states' => simulate ahead states'
termination_by (states.length, topRank states)
decreasing_by exact pass_decreases _passed

end ModalLanguage.Automaton
