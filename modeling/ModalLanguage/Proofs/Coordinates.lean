/-
Module: ModalLanguage.Proofs.Coordinates
Purpose: Line and column are coordinates of an offset. A position is found by walking along the
  text, and one more character is one more step (`locate_succ`); what is said here follows from the
  first position and that step. The line counts the newlines in front of the offset, and the column
  counts from the last of them. That one is also found from the other side, as the newline of its
  number among all newlines of the text (`lineStart?_line_locate`), so a text and a position give
  back the offset. Every step leads to a later position, hence positions are ordered as offsets are.
Main exports: Position.key, Position.offsetIn?, newlines, startOfLine, lineStart?, locate_succ,
  line_locate, startOfLine_add_column, lineStart?_line_locate, locate_is_coordinate
-/
import Mathlib.Data.List.Basic
import Mathlib.Data.Prod.Lex
import Mathlib.Order.Monotone.Basic
import ModalLanguage.Proofs.Online

namespace ModalLanguage

/-! ### One more character -/

namespace Position

theorem walk_zero (text : List Char) (p : Position) : walk text 0 p = p := by
  cases text <;> rfl

/-- The last of the characters walked along is the one behind all the others. -/
theorem walk_succ (text : List Char) (n : Nat) (p : Position) :
    walk text (n + 1) p =
      if text[n]? = some '\n' then ⟨(walk text n p).line + 1, 1⟩
      else ⟨(walk text n p).line, (walk text n p).column + 1⟩ := by
  induction text generalizing n p with
  | nil => rfl
  | cons c cs ih =>
      cases n with
      | zero =>
          have one : walk (c :: cs) 1 p = p.after c := walk_zero cs (p.after c)
          simp only [one, walk_zero, after, List.getElem?_cons_zero, Option.some.injEq]
      | succ n => exact ih n (p.after c)

/-- What positions are ordered by: the line, and within a line the column. -/
def key (p : Position) : Nat ×ₗ Nat := toLex (p.line, p.column)

theorem key_lt_key {p q : Position} :
    p.key < q.key ↔ p.line < q.line ∨ p.line = q.line ∧ p.column < q.column :=
  Prod.Lex.toLex_lt_toLex

end Position

theorem locate_zero (text : String) : locate text 0 = .start :=
  Position.walk_zero text.toList .start

/-- Behind a newline the next line begins. Any other character, and every place past the end of the
    text, is one column. -/
theorem locate_succ (text : String) (offset : Nat) :
    locate text (offset + 1) =
      if text.toList[offset]? = some '\n' then ⟨(locate text offset).line + 1, 1⟩
      else ⟨(locate text offset).line, (locate text offset).column + 1⟩ :=
  Position.walk_succ text.toList offset .start

theorem one_le_column_locate (text : String) (offset : Nat) :
    1 ≤ (locate text offset).column := by
  cases offset with
  | zero =>
      rw [locate_zero]
      exact Nat.le_refl 1
  | succ offset =>
      rw [locate_succ]
      split
      · exact Nat.le_refl 1
      · exact Nat.le_add_left 1 _

/-- A later offset has a later position. -/
theorem strictMono_key_locate (text : String) :
    StrictMono fun offset => (locate text offset).key := by
  apply strictMono_nat_of_lt_succ
  intro offset
  rw [Position.key_lt_key, locate_succ]
  split
  · exact .inl (Nat.lt_succ_self _)
  · exact .inr ⟨rfl, Nat.lt_succ_self _⟩

/-! ### Newlines -/

/-- The offsets of the newlines, in order. -/
def newlines (text : List Char) : List Nat := text.findIdxs (· == '\n')

theorem length_newlines (text : List Char) : (newlines text).length = text.count '\n' :=
  List.length_findIdxs

section Newlines

variable {text : List Char} {offset : Nat}

/-- The newlines in front of an offset are the first ones of the text. -/
theorem newlines_take (text : List Char) (offset : Nat) :
    newlines (text.take offset) = (newlines text).take ((text.take offset).count '\n') :=
  List.findIdxs_take

theorem newlines_take_succ_of_newline (newline : text[offset]? = some '\n') :
    newlines (text.take (offset + 1)) = newlines (text.take offset) ++ [offset] := by
  obtain ⟨inside, -⟩ := List.getElem?_eq_some_iff.1 newline
  have length_front : (text.take offset).length = offset := List.length_take_of_le inside.le
  rw [newlines, List.take_add_one, List.findIdxs_append, newline, length_front, newlines]
  simp

theorem newlines_take_succ_of_ne (other : text[offset]? ≠ some '\n') :
    newlines (text.take (offset + 1)) = newlines (text.take offset) := by
  have nothing : text[offset]?.toList.findIdxs (· == '\n') (0 + (text.take offset).length) = [] := by
    rw [List.findIdxs_eq_nil_iff]
    intro c there
    rw [Option.mem_toList] at there
    simpa [there] using other
  rw [newlines, List.take_add_one, List.findIdxs_append, nothing, List.append_nil, newlines]

end Newlines

/-! ### The line and the column of an offset -/

/-- Where the line of an offset begins: behind the last newline in front of the offset, or at the
    beginning of the text when there is none. -/
def startOfLine (text : String) (offset : Nat) : Nat :=
  (newlines (text.toList.take offset)).getLast?.elim 0 (· + 1)

theorem startOfLine_succ (text : String) (offset : Nat) :
    startOfLine text (offset + 1) =
      if text.toList[offset]? = some '\n' then offset + 1 else startOfLine text offset := by
  unfold startOfLine
  split
  · next newline =>
      rw [newlines_take_succ_of_newline newline, List.getLast?_concat]
      rfl
  · next other => rw [newlines_take_succ_of_ne other]

/-- The line counts the newlines in front of the offset. -/
theorem line_locate (text : String) (offset : Nat) :
    (locate text offset).line = (text.toList.take offset).count '\n' + 1 := by
  rw [← length_newlines]
  induction offset with
  | zero =>
      rw [locate_zero]
      rfl
  | succ offset ih =>
      rw [locate_succ]
      split
      · next newline =>
          rw [newlines_take_succ_of_newline newline, List.length_append, List.length_singleton, ih]
      · next other => rw [newlines_take_succ_of_ne other, ih]

/-- The column counts the characters from the beginning of the line. -/
theorem startOfLine_add_column (text : String) (offset : Nat) :
    startOfLine text offset + (locate text offset).column = offset + 1 := by
  induction offset with
  | zero =>
      rw [locate_zero]
      rfl
  | succ offset ih =>
      rw [locate_succ, startOfLine_succ]
      split
      · rfl
      · rw [← ih, Nat.add_assoc]

/-! ### From a position to its offset -/

/-- Where the line of a number begins: the first one at the beginning of the text, and every other
    one behind the newline that ends the line before it. A text without that newline has no such
    line. -/
def lineStart? (text : String) : Nat → Option Nat
  | 0 => none
  | 1 => some 0
  | line + 2 => (newlines text.toList)[line]?.map (· + 1)

/-- The offset of a position, found from its line and its column. -/
def Position.offsetIn? (text : String) (p : Position) : Option Nat :=
  (lineStart? text p.line).map (· + (p.column - 1))

/-- The line of an offset begins at the same place, whether it is looked for by its number or from the
    offset. -/
theorem lineStart?_line_locate (text : String) (offset : Nat) :
    lineStart? text (locate text offset).line = some (startOfLine text offset) := by
  have front_eq := newlines_take text.toList offset
  have length_front := length_newlines (text.toList.take offset)
  rw [line_locate, startOfLine]
  cases count_eq : (text.toList.take offset).count '\n' with
  | zero =>
      rw [front_eq, count_eq]
      rfl
  | succ line =>
      rw [count_eq] at front_eq length_front
      -- The last of `line + 1` newlines is the one with `line` newlines before it.
      have last_eq : (newlines (text.toList.take offset)).getLast? =
          (newlines text.toList)[line]? := by
        rw [List.getLast?_eq_getElem?, length_front, Nat.add_sub_cancel, front_eq,
          List.getElem?_take_of_lt (Nat.lt_succ_self line)]
      have some_newline := List.ne_nil_of_length_eq_add_one length_front
      rw [lineStart?, ← last_eq, List.getLast?_eq_some_getLast some_newline]
      rfl

theorem startOfLine_add_column_sub_one (text : String) (offset : Nat) :
    startOfLine text offset + ((locate text offset).column - 1) = offset := by
  have counted := startOfLine_add_column text offset
  have positive := one_le_column_locate text offset
  omega

theorem offsetIn?_locate (text : String) (offset : Nat) :
    (locate text offset).offsetIn? text = some offset := by
  rw [Position.offsetIn?, lineStart?_line_locate, Option.map_some,
    startOfLine_add_column_sub_one]

/-! ### Tokens -/

/-- Tokens are listed by their offsets. -/
theorem pairwise_offset_lt (text : String) :
    (tokenize text).tokens.Pairwise fun first later => first.offset < later.offset := by
  obtain ⟨stop, cut⟩ := cut_tokenize text
  refine cut.pairwise.imp_of_mem ?_
  intro first later member _ ends
  exact (offset_lt_endOffset member).trans_le ends

/-- Line and column are coordinates of an offset, also of one past the end of the text. The line is
    one more than the number of newlines in front of the offset, the column is at least one, and
    counted from where that line begins it leads to the offset. So a text and a position give back the
    offset. A later offset has a position that is later in line and column, and the tokens of a text
    stand at later and later positions. -/
theorem locate_is_coordinate (text : String) :
    (∀ offset,
      (locate text offset).line = (text.toList.take offset).count '\n' + 1 ∧
        1 ≤ (locate text offset).column ∧
        lineStart? text (locate text offset).line = some (startOfLine text offset) ∧
        startOfLine text offset + ((locate text offset).column - 1) = offset ∧
        (locate text offset).offsetIn? text = some offset) ∧
      (∀ i j, i < j → (locate text i).key < (locate text j).key) ∧
      (tokenize text).tokens.Pairwise fun first later =>
        (locate text first.offset).key < (locate text later.offset).key := by
  refine ⟨?_, ?_, ?_⟩
  · intro offset
    exact ⟨line_locate text offset, one_le_column_locate text offset,
      lineStart?_line_locate text offset, startOfLine_add_column_sub_one text offset,
      offsetIn?_locate text offset⟩
  · intro i j before
    exact strictMono_key_locate text before
  · refine (pairwise_offset_lt text).imp ?_
    intro first later before
    exact strictMono_key_locate text before

/-- Two newlines in a row, and offsets at the end of the text and past it. -/
example : (List.range 6).map (locate "p\n\nq") =
    [⟨1, 1⟩, ⟨1, 2⟩, ⟨2, 1⟩, ⟨3, 1⟩, ⟨3, 2⟩, ⟨3, 3⟩] := by
  decide +kernel

end ModalLanguage
