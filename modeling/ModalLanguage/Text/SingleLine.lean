/-
Module: ModalLanguage.Text.SingleLine
Purpose: Texts that stay on one line, whatever is written around them. Texts that are put together
  from such texts stay on one line too, numbers in decimal do, and so does the quoted form of any
  text at all.
Main exports: endsLine, SingleLine, SingleLine.append, SingleLine.intercalate, singleLine_nat,
  singleLine_quoted
-/
import ModalLanguage.Text.Quoted

namespace ModalLanguage

/-- The characters that end a line: newline and carriage return. -/
def endsLine (c : Char) : Bool := c = '\n' || c = '\r'

theorem endsLine_eq_false_iff {c : Char} : endsLine c = false ↔ c ≠ '\n' ∧ c ≠ '\r' := by
  simp [endsLine]

theorem endsLine_of_isAlphanum {c : Char} (plain : c.isAlphanum = true) : endsLine c = false := by
  rw [endsLine_eq_false_iff]
  constructor
  · rintro rfl
    exact absurd plain (by decide)
  · rintro rfl
    exact absurd plain (by decide)

theorem endsLine_of_isAlpha {c : Char} (isAlpha : c.isAlpha = true) : endsLine c = false := by
  apply endsLine_of_isAlphanum
  rw [Char.isAlphanum, isAlpha, Bool.true_or]

theorem endsLine_of_isDigit {c : Char} (isDigit : c.isDigit = true) : endsLine c = false := by
  apply endsLine_of_isAlphanum
  rw [Char.isAlphanum, isDigit, Bool.or_true]

/-- A text that holds no character that ends a line. -/
def SingleLine (text : String) : Prop := ∀ c ∈ text.toList, endsLine c = false

instance (text : String) : Decidable (SingleLine text) :=
  List.decidableBAll (fun c => endsLine c = false) text.toList

namespace SingleLine

theorem append {first second : String} (single : SingleLine first) (single' : SingleLine second) :
    SingleLine (first ++ second) := by
  intro c member
  rw [String.toList_append, List.mem_append] at member
  rcases member with inFirst | inSecond
  · exact single c inFirst
  · exact single' c inSecond

theorem surround {front text back : String} (single : SingleLine text) (before : SingleLine front)
    (behind : SingleLine back) : SingleLine (front ++ text ++ back) :=
  (before.append single).append behind

theorem intercalate {separator : String} {texts : List String} (between : SingleLine separator)
    (single : ∀ text ∈ texts, SingleLine text) : SingleLine (separator.intercalate texts) := by
  induction texts with
  | nil => exact nofun
  | cons text texts ih =>
      rw [List.forall_mem_cons] at single
      cases texts with
      | nil =>
          rw [String.intercalate_singleton]
          exact single.1
      | cons next texts =>
          rw [String.intercalate_cons_cons]
          exact (single.1.append between).append (ih single.2)

end SingleLine

/-! ### Numbers -/

theorem singleLine_nat (n : Nat) : SingleLine (toString n) := by
  intro c member
  rw [Nat.toString_eq_repr, Nat.repr_eq_ofList_toDigits, String.toList_ofList] at member
  exact endsLine_of_isDigit (Nat.isDigit_of_mem_toDigits (by decide) (by decide) member)

/-! ### Quoted texts -/

namespace Quoted

theorem endsLine_hex (width n : Nat) : ∀ c ∈ hex width n, endsLine c = false := by
  have digits : ∀ digit : Fin 16, endsLine (Nat.digitChar digit) = false := by decide
  induction width generalizing n with
  | zero => exact nofun
  | succ width ih =>
      rw [hex, List.forall_mem_append, List.forall_mem_singleton]
      exact ⟨ih (n / 16), digits ⟨n % 16, Nat.mod_lt _ (by decide)⟩⟩

/-- Something behind a backslash. -/
theorem endsLine_backslash {cs : List Char} (plain : ∀ c ∈ cs, endsLine c = false) :
    ∀ c ∈ '\\' :: cs, endsLine c = false :=
  List.forall_mem_cons.2 ⟨rfl, plain⟩

theorem endsLine_codePoint (c : Char) : ∀ escaped ∈ codePoint c, endsLine escaped = false := by
  have digits (form : Char) (plain : endsLine form = false) (width : Nat) :
      ∀ escaped ∈ form :: hex width c.toNat, endsLine escaped = false :=
    List.forall_mem_cons.2 ⟨plain, endsLine_hex width c.toNat⟩
  unfold codePoint
  split
  · exact endsLine_backslash (digits 'x' rfl 2)
  · split
    · exact endsLine_backslash (digits 'u' rfl 4)
    · exact endsLine_backslash (digits 'U' rfl 8)

/-- What stands for a character ends no line: newline and carriage return are written by letters. -/
theorem endsLine_escape {quote : Char} (plain : endsLine quote = false) (c : Char) :
    ∀ escaped ∈ escape quote c, endsLine escaped = false := by
  have letter (form : Char) (plain : endsLine form = false) :
      ∀ escaped ∈ ['\\', form], endsLine escaped = false :=
    endsLine_backslash (List.forall_mem_singleton.2 plain)
  unfold escape
  by_cases isMark : c = quote ∨ c = '\\'
  · rw [if_pos isMark]
    rcases isMark with rfl | rfl
    · exact letter c plain
    · exact letter '\\' rfl
  rw [if_neg isMark]
  by_cases isTab : c = '\t'
  · rw [if_pos isTab]
    exact letter 't' rfl
  rw [if_neg isTab]
  by_cases isNewline : c = '\n'
  · rw [if_pos isNewline]
    exact letter 'n' rfl
  rw [if_neg isNewline]
  by_cases isReturn : c = '\r'
  · rw [if_pos isReturn]
    exact letter 'r' rfl
  rw [if_neg isReturn]
  split
  · rw [List.forall_mem_singleton]
    exact endsLine_eq_false_iff.2 ⟨isNewline, isReturn⟩
  · exact endsLine_codePoint c

theorem endsLine_quote (text : List Char) : endsLine (quote text) = false := by
  unfold quote
  split
  · rfl
  · rfl

theorem endsLine_encode (text : List Char) : ∀ c ∈ encode text, endsLine c = false := by
  have plain := endsLine_quote text
  rw [encode, List.cons_append, List.forall_mem_cons, List.forall_mem_append]
  refine ⟨plain, ?_, List.forall_mem_singleton.2 plain⟩
  intro escaped member
  obtain ⟨c, -, isEscaped⟩ := List.mem_flatMap.1 member
  exact endsLine_escape plain c escaped isEscaped

end Quoted

/-- A quoted text is one line, whatever the text holds. -/
theorem singleLine_quoted (text : String) : SingleLine (quoted text) := by
  rw [SingleLine, quoted, String.toList_ofList]
  exact Quoted.endsLine_encode text.toList

end ModalLanguage
