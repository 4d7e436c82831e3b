/-
Module: ModalLanguage.Token.Role
Purpose: What a name stands for, told from the tokens next to it. Atoms, predicates, arguments, agents
  and bound names are all spelled alike and are tokens of one kind; which of these a letter is can be
  seen from the two or three tokens in front of it and the one behind it. No token further away and
  no formula is looked at.
Main exports: Role, Role.ofPlace, NamedAs, letters
-/
import ModalLanguage.Token.Basic

namespace ModalLanguage

/-- What a name stands for where it occurs. -/
inductive Role where
  | agent
  | bound
  | predicate
  | argument
  | atom
deriving DecidableEq, Repr

/-- The kinds that take the name right behind them: the mark of an agent, and the quantifiers. -/
def Kind.takesName : Kind → Bool
  | underscore => true
  | universal => true
  | existential => true
  | _ => false

/-! The kinds of the tokens in front of a place are given from the nearest one on. -/

/-- Whether what stands right in front of a place takes the name there. -/
def isTaken (front : List Kind) : Bool := front.head?.any Kind.takesName

@[simp] theorem isTaken_cons (kind : Kind) (front : List Kind) :
    isTaken (kind :: front) = kind.takesName := rfl

/-- Whether a place is that of an argument: behind a comma, or behind a bracket that itself stands
    right behind the name of a predicate. -/
def isArgument : List Kind → Bool
  | .comma :: _ => true
  | .opening :: .letter :: front => !isTaken front
  | _ => false

/-- The role of a name. Behind an underscore it is an agent, and behind a quantifier it is bound.
    Otherwise a bracket right behind it makes it a predicate; and of the names that are left those
    that are no arguments are atoms. -/
def Role.ofPlace (front : List Kind) (behind : Option Kind) : Role :=
  if front.head? = some .underscore then .agent
  else if isTaken front then .bound
  else if behind = some .opening then .predicate
  else if isArgument front then .argument
  else .atom

/-- A name occurs among tokens in a role. -/
def NamedAs (tokens : List Token) (role : Role) (name : String) : Prop :=
  ∃ before token after, tokens = before ++ token :: after ∧ token.kind = .letter ∧
    token.value = name ∧
    Role.ofPlace (before.reverse.map Token.kind) (after.head?.map Token.kind) = role

/-- The kind that follows, when tokens stand in front of something that begins with a kind. -/
def nextKind (behind : Option Kind) : List Token → Option Kind
  | [] => behind
  | token :: _ => some token.kind

/-- The letters among tokens with their roles, in order. -/
def letters (front : List Kind) (behind : Option Kind) : List Token → List (Role × String)
  | [] => []
  | token :: tokens =>
    let others := letters (token.kind :: front) behind tokens
    if token.kind = .letter then
      (Role.ofPlace front (nextKind behind tokens), token.value) :: others
    else others

/-- An agent in front of a bracket, a bound name in front of one, and an argument: all of these are
    no predicates. -/
example : letters [] none [⟨.box, "□", 0⟩, ⟨.underscore, "_", 1⟩, ⟨.letter, "a", 2⟩,
    ⟨.opening, "(", 3⟩, ⟨.universal, "∀", 4⟩, ⟨.letter, "x", 5⟩, ⟨.opening, "(", 6⟩,
    ⟨.letter, "p", 7⟩, ⟨.opening, "(", 8⟩, ⟨.letter, "x", 9⟩] =
      [(.agent, "a"), (.bound, "x"), (.predicate, "p"), (.argument, "x")] := by
  decide

end ModalLanguage
