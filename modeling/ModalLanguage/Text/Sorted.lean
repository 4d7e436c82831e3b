/-
Module: ModalLanguage.Text.Sorted
Purpose: Texts in the order of their code points, as sets of names are listed.
Main exports: sortTexts, distinctTexts
-/

namespace ModalLanguage

/-- The texts in order. Equal texts stay as many as they are. -/
def sortTexts (texts : List String) : List String :=
  texts.mergeSort fun first second => first ≤ second

/-- The texts in order, each once. -/
def distinctTexts (texts : List String) : List String :=
  (sortTexts texts).eraseReps

/-- Sorting neither adds a text nor loses one. -/
theorem mem_sortTexts {texts : List String} {text : String} :
    text ∈ sortTexts texts ↔ text ∈ texts :=
  List.mem_mergeSort

theorem mem_eraseReps_loop {first : String} {rest found : List String} {text : String} :
    text ∈ List.eraseRepsBy.loop (· == ·) first rest found ↔
      text ∈ found ∨ text = first ∨ text ∈ rest := by
  induction rest generalizing first found with
  | nil => simp [List.eraseRepsBy.loop, or_comm]
  | cons next rest ih =>
    rw [List.eraseRepsBy.loop]
    split
    · rename_i repeated
      have same : first = next := by simpa using repeated
      simp [ih, same]
    · rw [ih, List.mem_cons, List.mem_cons, or_assoc, or_left_comm]

/-- Dropping repetitions loses no text. -/
theorem mem_eraseReps {texts : List String} {text : String} :
    text ∈ texts.eraseReps ↔ text ∈ texts := by
  cases texts with
  | nil => rfl
  | cons first rest => simp [List.eraseReps, List.eraseRepsBy, mem_eraseReps_loop]

/-- A set of names has just the texts that it was made of. -/
theorem mem_distinctTexts {texts : List String} {text : String} :
    text ∈ distinctTexts texts ↔ text ∈ texts := by
  rw [distinctTexts, mem_eraseReps, mem_sortTexts]

end ModalLanguage
