/-
Module: ModalLanguage.Parser.Lookahead
Purpose: What can stand next while a formula is read: a token of some kind or the end of the text.
  Kinds are classed by their part in a formula. A few begin an operand, and a few follow a complete
  phrase; what follows a phrase decides which operators in front of it are complete too.
Main exports: Lookahead, Lookahead.name, Follower, Lookahead.follower?, Connective.closedBy
-/
import ModalLanguage.Formula.Basic
import ModalLanguage.Token.Kind

namespace ModalLanguage

namespace Kind

/-- The connective that a kind stands for. -/
def connective? : Kind → Option Connective
  | conjunction => some .conjunction
  | disjunction => some .disjunction
  | implication => some .implication
  | biconditional => some .biconditional
  | _ => none

/-- The kinds that begin an operand of a modal operator. An operand of a connective or of a negation
    can begin with a negation too. -/
def beginsTight : Kind → Bool
  | opening => true
  | box => true
  | diamond => true
  | verum => true
  | falsum => true
  | universal => true
  | existential => true
  | letter => true
  | _ => false

end Kind

/-- The next token's kind, or the end of the text. -/
inductive Lookahead where
  | token (kind : Kind)
  | ending
deriving DecidableEq, Repr

namespace Lookahead

/-- Every lookahead. -/
def all : List Lookahead := ending :: Kind.all.map token

/-- The name of a lookahead in messages. -/
def name : Lookahead → String
  | token kind => kind.name
  | ending => "$end"

theorem mem_all (ahead : Lookahead) : ahead ∈ all := by
  cases ahead with
  | token kind => exact List.mem_cons_of_mem _ (List.mem_map_of_mem (Kind.mem_all kind))
  | ending => exact List.mem_cons_self

/-- No two lookaheads have one name. -/
theorem name_inj {first second : Lookahead} : first.name = second.name ↔ first = second := by
  have distinct : ∀ first ∈ all, ∀ second ∈ all, first.name = second.name → first = second := by
    decide
  constructor
  · exact distinct first first.mem_all second second.mem_all
  · rintro rfl
    rfl

end Lookahead

/-- What can follow a complete phrase. -/
inductive Follower where
  | connective (op : Connective)
  | closing
  | ending
deriving DecidableEq, Repr

namespace Lookahead

/-- The lookahead as a follower, if it can follow a phrase at all. -/
def follower? : Lookahead → Option Follower
  | token .closing => some .closing
  | token kind => kind.connective?.map .connective
  | ending => some .ending

end Lookahead

namespace Connective

/-- Connectives of greater rank bind more tightly. -/
def rank : Connective → Nat
  | conjunction => 3
  | disjunction => 2
  | implication => 1
  | biconditional => 0

/-- A connective whose right operand is complete takes it before a looser connective, and before
    itself unless it groups to the right. Implication alone does. -/
def closedBy (op : Connective) : Follower → Bool
  | .connective next => next.rank < op.rank || next == op && op != implication
  | .closing => true
  | .ending => true

end Connective

end ModalLanguage
