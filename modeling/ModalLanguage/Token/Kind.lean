/-
Module: ModalLanguage.Token.Kind
Purpose: The kinds of tokens, how they are spelled, and the order that settles ties between them.
  Most kinds have a fixed list of spellings. Names and agents are letters instead, and blanks carry
  no token at all but take part in the order.
Main exports: Kind, Kind.name, Kind.spellings, Category, Category.order, keywords
-/

namespace ModalLanguage

/-- What a token stands for. -/
inductive Kind where
  | atMost
  | atLeast
  | equals
  | opening
  | closing
  | negation
  | conjunction
  | disjunction
  | implication
  | biconditional
  | box
  | diamond
  | verum
  | falsum
  | universal
  | existential
  | dot
  | comma
  | underscore
  | letter
  | agent
deriving DecidableEq, Repr

namespace Kind

/-- The name of a kind in messages, logs and token lists. -/
def name : Kind → String
  | atMost => "LTE"
  | atLeast => "GTE"
  | equals => "EQ"
  | opening => "LPAREN"
  | closing => "RPAREN"
  | negation => "NOT"
  | conjunction => "AND"
  | disjunction => "OR"
  | implication => "IMPLIES"
  | biconditional => "IFF"
  | box => "BOX"
  | diamond => "DIAMOND"
  | verum => "TOP"
  | falsum => "BOT"
  | universal => "FORALL"
  | existential => "EXISTS"
  | dot => "DOT"
  | comma => "COMMA"
  | underscore => "UNDERSCORE"
  | letter => "ATOM"
  | agent => "AGENT"

/-- Every kind, in the order of declaration. -/
def all : List Kind :=
  [atMost, atLeast, equals, opening, closing, negation, conjunction, disjunction, implication,
    biconditional, box, diamond, verum, falsum, universal, existential, dot, comma, underscore,
    letter, agent]

/-- The spellings of a kind. A letter or an agent is a pattern and has none. -/
def spellings : Kind → List String
  | atMost => ["<="]
  | atLeast => [">="]
  | equals => ["=="]
  | opening => ["(", "["]
  | closing => [")", "]"]
  | negation => ["¬", "~", "!"]
  | conjunction => ["∧", "&", "&&"]
  | disjunction => ["∨", "|", "||"]
  | implication => ["→", "->", "=>"]
  | biconditional => ["↔", "<->", "<=>"]
  | box => ["□", "[]"]
  | diamond => ["◊", "<>", "⋄"]
  | verum => ["⊤", "T", "true"]
  | falsum => ["⊥", "F", "false"]
  | universal => ["∀", "Forall", "A"]
  | existential => ["∃", "Exists", "E"]
  | dot => ["."]
  | comma => [","]
  | underscore => ["_"]
  | letter => []
  | agent => []

theorem mem_all (k : Kind) : k ∈ all := by
  cases k <;> decide

end Kind

/-- What the text is cut into: blanks, which are skipped, and tokens. -/
inductive Category where
  | whitespace
  | newline
  | token (kind : Kind)
deriving DecidableEq, Repr

namespace Category

/-- The name of a category. -/
def name : Category → String
  | whitespace => "WHITESPACE"
  | newline => "NEWLINE"
  | token kind => kind.name

/-- Of two matches of one length the category that stands first here wins. -/
def order : List Category := whitespace :: newline :: Kind.all.map token

end Category

/-- A spelling made of letters collides with the names, so it counts only as a whole word. -/
def isWord (spelling : String) : Bool :=
  spelling.toList.all Char.isAlpha

/-- The spellings that are words, in the order of declaration, with what they stand for. -/
def keywords : List (String × Kind) :=
  Kind.all.flatMap fun kind => (kind.spellings.filter isWord).map fun spelling => (spelling, kind)

end ModalLanguage
