/-
Module: ModalLanguage.Token.Lexeme
Purpose: The rules that find a token at the start of a text. The rules are tried in order and the
  first that matches wins. A symbol stands before every symbol it starts with, so the first match is
  the longest. Words come last: a whole keyword, or else one letter with the digits behind it.
Main exports: symbols, words, symbol?, word?, lexeme?
-/
import ModalLanguage.Token.Kind

namespace ModalLanguage

/-- The spellings that are no words, in the order in which they are tried. -/
def symbols : List (List Char × Kind) :=
  [(['<', '-', '>'], .biconditional), (['<', '=', '>'], .biconditional), (['↔'], .biconditional),
    (['-', '>'], .implication), (['=', '>'], .implication), (['→'], .implication),
    (['<', '='], .atMost), (['>', '='], .atLeast), (['=', '='], .equals),
    (['[', ']'], .box), (['□'], .box),
    (['<', '>'], .diamond), (['◊'], .diamond), (['⋄'], .diamond),
    (['('], .opening), (['['], .opening), ([')'], .closing), ([']'], .closing),
    (['¬'], .negation), (['~'], .negation), (['!'], .negation),
    (['&', '&'], .conjunction), (['∧'], .conjunction), (['&'], .conjunction),
    (['|', '|'], .disjunction), (['∨'], .disjunction), (['|'], .disjunction),
    (['⊤'], .verum), (['⊥'], .falsum), (['∀'], .universal), (['∃'], .existential),
    (['.'], .dot), ([','], .comma), (['_'], .underscore)]

/-- The words of more than one letter, which win over the names that their first letters would
    be. -/
def words : List (List Char) :=
  [['F', 'o', 'r', 'a', 'l', 'l'], ['E', 'x', 'i', 's', 't', 's'], ['f', 'a', 'l', 's', 'e'],
    ['t', 'r', 'u', 'e']]

/-- The first symbol that the text starts with. -/
def symbol? (text : List Char) : Option (List Char × Kind) :=
  symbols.find? fun symbol => symbol.1.isPrefixOf text

/-- The word that the text starts with, if it starts with an ASCII letter. -/
def word? (text : List Char) : Option (List Char) :=
  match words.find? fun word => word.isPrefixOf text with
  | some word => some word
  | none =>
    match text with
    | [] => none
    | c :: rest => if c.isAlpha then some (c :: rest.takeWhile Char.isDigit) else none

/-- A word that is no keyword is a name. -/
def wordKind (word : List Char) : Kind :=
  ((keywords.find? fun keyword => keyword.1.toList = word).map Prod.snd).getD .letter

/-- The token at the start of a text, as its characters and its kind. -/
def lexeme? (text : List Char) : Option (List Char × Kind) :=
  match symbol? text with
  | some symbol => some symbol
  | none => (word? text).map fun word => (word, wordKind word)

/-! ### The rules against the table of spellings -/

/-- The rules hold each spelling that is no word, under its kind. -/
theorem mem_symbols_iff (spelling : List Char) (kind : Kind) :
    (spelling, kind) ∈ symbols ↔
      spelling ∈ (kind.spellings.filter fun s => !isWord s).map String.toList := by
  cases kind <;> simp [symbols, Kind.spellings, isWord] <;> grind

/-- A symbol that begins another one stands behind it. -/
theorem symbols_ordered :
    symbols.Pairwise fun first later => first.1.isPrefixOf later.1 = false := by
  decide

/-! ### Progress -/

theorem symbol?_ne_nil {text value : List Char} {kind : Kind}
    (h : symbol? text = some (value, kind)) : value ≠ [] := by
  have nonempty : ∀ symbol ∈ symbols, symbol.1 ≠ [] := by decide
  exact nonempty _ (List.mem_of_find?_eq_some h)

theorem word?_ne_nil {text word : List Char} (h : word? text = some word) : word ≠ [] := by
  have nonempty : ∀ word ∈ words, word ≠ [] := by decide
  unfold word? at h
  split at h
  · rename_i found
    cases h
    exact nonempty _ (List.mem_of_find?_eq_some found)
  · split at h
    · cases h
    · split at h
      · cases h
        exact List.cons_ne_nil _ _
      · cases h

/-- A token takes at least one character. -/
theorem lexeme?_ne_nil {text value : List Char} {kind : Kind}
    (h : lexeme? text = some (value, kind)) : value ≠ [] := by
  unfold lexeme? at h
  split at h
  · rename_i found
    cases h
    exact symbol?_ne_nil found
  · obtain ⟨word, read, same⟩ := Option.map_eq_some_iff.1 h
    cases same
    exact word?_ne_nil read

end ModalLanguage
