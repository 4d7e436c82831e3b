/-
Module: ModalLanguage.Automaton.Machine
Purpose: The engine as an object that keeps its stack from one token to the next. Whatever comes of
  a token, the machine is left with the stack at which it stopped: the token is on top if it was
  shifted, and otherwise all reductions in front of it stay made. What could have stood in the
  place of a token that is refused is asked of the states that the machine had when the token was
  read.
Main exports: settling, settling_fst, Machine, Machine.restart, Machine.work, expectedOn,
  Verdict.failure
-/
import ModalLanguage.Automaton.Engine

namespace ModalLanguage.Automaton

/-- Reduce until the token can be shifted or not. The verdict stands with the stack that is left. -/
def settling (limit : Limit) (found : Option Token) (stack : List Cell) : Verdict × List Cell :=
  match _rounded : round limit found stack with
  | .settled (.shifted stack') => (.shifted stack', stack')
  | .settled verdict => (verdict, stack)
  | .reduced stack' => settling limit found stack'
termination_by ((states stack).length, topRank (states stack))
decreasing_by exact pass_decreases (pass_states _rounded)

theorem settling_fst (limit : Limit) (found : Option Token) (stack : List Cell) :
    (settling limit found stack).1 = settle limit found stack := by
  fun_induction settling limit found stack with
  | case1 stack stack' rounded => rw [settle_of_settled rounded]
  | case2 stack verdict _ rounded => rw [settle_of_settled rounded]
  | case3 stack stack' rounded ih => rw [settle_of_reduced rounded, ih]

/-- A token that is shifted leaves the stack that the verdict tells. -/
theorem settling_of_shifted {limit : Limit} {found : Option Token} {stack stack' : List Cell}
    (shifted : settle limit found stack = .shifted stack') :
    settling limit found stack = (.shifted stack', stack') := by
  fun_induction settling limit found stack with
  | case1 stack next rounded =>
      rw [settle_of_settled rounded] at shifted
      cases shifted
      rfl
  | case2 stack verdict notShifted rounded =>
      rw [settle_of_settled rounded] at shifted
      exact absurd shifted (notShifted stack')
  | case3 stack next rounded ih =>
      rw [settle_of_reduced rounded] at shifted
      exact ih shifted

/-- A machine: the limit that its rules hold formulas against, and what it has read. -/
structure Machine where
  limit : Limit
  stack : List Cell
deriving DecidableEq, Repr

namespace Machine

/-- A machine that has read nothing. -/
def ofLimit (limit : Limit) : Machine := ⟨limit, []⟩

/-- Forget what was read. -/
def restart (m : Machine) : Machine := { m with stack := [] }

/-- Work off a token, or the end. -/
def work (m : Machine) (found : Option Token) : Verdict × Machine :=
  let (verdict, stack) := settling m.limit found m.stack
  (verdict, { m with stack })

theorem work_fst (m : Machine) (found : Option Token) :
    (m.work found).1 = settle m.limit found m.stack := settling_fst m.limit found m.stack

theorem limit_work (m : Machine) (found : Option Token) : (m.work found).2.limit = m.limit := rfl

theorem work_of_shifted {m : Machine} {found : Option Token} {stack : List Cell}
    (shifted : settle m.limit found m.stack = .shifted stack) :
    m.work found = (.shifted stack, { m with stack }) := by
  rw [work, settling_of_shifted shifted]

end Machine

/-- The lookaheads that would be shifted on some states, or accepted. -/
def expectedOn (states : List State) : List Lookahead :=
  Lookahead.all.filter fun ahead => simulate ahead states = .answer true

/-- Why a token was not shifted, or the end not accepted: a rule has failed, or nothing is
    prescribed. What would have been taken is told from the states that there were before. -/
def Verdict.failure (found : Option Token) (before : List State) : Verdict → Failure
  | failed failure => failure
  | _ => .unexpected found (expectedOn before)

end ModalLanguage.Automaton
