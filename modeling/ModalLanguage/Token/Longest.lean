/-
Module: ModalLanguage.Token.Longest
Purpose: What it means to cut a text into the longest tokens, said without rules. A token is the
  longest beginning of the text that spells any kind, and of kinds with equally long spellings the
  one that is declared first counts. Blanks are skipped, and a text ends early at a character where
  no kind has a spelling.
Main exports: Kind.Spells, Longest, Cut
-/
import ModalLanguage.Token.Stream

namespace ModalLanguage

/-- The spellings of a kind, patterns included: a letter may have digits behind it, and an agent is
    one of four letters. -/
def Kind.Spells (kind : Kind) (value : List Char) : Prop :=
  match kind with
  | .letter => ∃ c digits, value = c :: digits ∧ c.isAlpha = true ∧ ∀ d ∈ digits, d.isDigit = true
  | .agent => ∃ c ∈ ['a', 'b', 'c', 'd'], value = [c]
  | kind => value ∈ kind.spellings.map String.toList

/-- Whether a kind is declared before another one. -/
def Kind.DeclaredBefore (first later : Kind) : Prop :=
  Kind.all.idxOf first < Kind.all.idxOf later

/-- A text begins with a spelling of a kind, no spelling that it begins with is longer, and no kind
    that is declared before has one of the same length. -/
structure Longest (text value : List Char) (kind : Kind) : Prop where
  begins : value <+: text
  spells : kind.Spells value
  longest : ∀ (other : Kind) (value' : List Char), value' <+: text → other.Spells value' →
    value'.length ≤ value.length
  first : ∀ (other : Kind) (value' : List Char), value' <+: text → other.Spells value' →
    other.DeclaredBefore kind → value'.length < value.length

/-- A text, from an offset on, is cut into tokens and perhaps ended early by a character. -/
inductive Cut : List Char → Nat → List Token → Option (Nat × Char) → Prop where
  | finished {offset : Nat} : Cut [] offset [] none
  | blank {c : Char} {text : List Char} {offset : Nat} {tokens : List Token}
      {stop : Option (Nat × Char)} :
      isBlank c = true → Cut text (offset + 1) tokens stop → Cut (c :: text) offset tokens stop
  | token {value rest : List Char} {kind : Kind} {offset : Nat} {tokens : List Token}
      {stop : Option (Nat × Char)} :
      Longest (value ++ rest) value kind → Cut rest (offset + value.length) tokens stop →
      Cut (value ++ rest) offset (⟨kind, String.ofList value, offset⟩ :: tokens) stop
  | invalid {c : Char} {text : List Char} {offset : Nat} :
      isBlank c = false → (∀ value kind, ¬ Longest (c :: text) value kind) →
      Cut (c :: text) offset [] (some (offset, c))

end ModalLanguage
