/-
Module: ModalLanguage.Proofs.BlankSplit
Purpose: A text can be cut in two at its blanks. Which token begins a text depends on what follows it,
  since the longest spelling wins; but no spelling of any kind holds a blank, so what stands behind a
  blank has no say (`Longest.append_iff`). The cut of a text up to a blank is therefore the beginning
  of the cut of the whole text (`Cut.append`, `Cut.append_of_stop`), and the cut of what stands behind
  is the same at every offset (`Cut.shift`).
Main exports: BeginsBlank, Kind.Spells.not_blank, Longest.append_iff, Cut.append, Cut.append_of_stop,
  Cut.shift, Token.shift, InvalidCharacter.shiftInto, tokenize_append_blanks
-/
import ModalLanguage.Proofs.Coverage

namespace ModalLanguage

/-! ### No spelling holds a blank -/

theorem isBlank_eq_false_of_isAlphanum {c : Char} (alphanumeric : c.isAlphanum = true) :
    isBlank c = false := by
  rw [Bool.eq_false_iff]
  intro blank
  simp only [isBlank, Bool.or_eq_true, decide_eq_true_eq] at blank
  rcases blank with (rfl | rfl) | rfl <;> cases alphanumeric

theorem Kind.Spells.not_blank {kind : Kind} {value : List Char} (spells : kind.Spells value) :
    ∀ c ∈ value, isBlank c = false := by
  have symbol_plain : ∀ symbol ∈ symbols, symbol.1.any isBlank = false := by decide
  have keyword_plain : ∀ keyword ∈ keywords, keyword.1.toList.any isBlank = false := by decide
  rcases spells.cases with symbol | ⟨word, member, rfl⟩ | ⟨-, c, digits, rfl, isLetter, areDigits⟩ |
    ⟨-, c, isAgent, rfl⟩
  · exact fun c inside => Bool.eq_false_iff.2 (List.any_eq_false.1 (symbol_plain _ symbol) c inside)
  · exact fun c inside => Bool.eq_false_iff.2 (List.any_eq_false.1 (keyword_plain _ member) c inside)
  · intro d member
    apply isBlank_eq_false_of_isAlphanum
    rcases List.mem_cons.1 member with rfl | isDigit
    · simp [Char.isAlphanum, isLetter]
    · simp [Char.isAlphanum, areDigits d isDigit]
  · intro d member
    apply isBlank_eq_false_of_isAlphanum
    rw [List.mem_singleton.1 member, Char.isAlphanum, isAlpha_of_mem_agents isAgent]
    rfl

/-- What begins with a blank, if with anything. -/
def BeginsBlank (rest : List Char) : Prop :=
  ∀ c ∈ rest.head?, isBlank c = true

/-- A piece without blanks that begins a text ends in front of the first blank. -/
theorem prefix_append_iff {value text rest : List Char} (plain : ∀ c ∈ value, isBlank c = false)
    (blank : BeginsBlank rest) : value <+: text ++ rest ↔ value <+: text := by
  constructor
  · intro begins
    rcases List.prefix_or_prefix_of_prefix begins (List.prefix_append text rest) with
      inside | ⟨tail, rfl⟩
    · exact inside
    · cases tail with
      | nil => simp
      | cons c tail =>
          -- The piece would go on with the blank itself.
          rw [List.prefix_append_right_inj] at begins
          obtain ⟨behind, rfl⟩ := begins
          have isBlank_c : isBlank c = true := blank c rfl
          rw [plain c (List.mem_append_right _ List.mem_cons_self)] at isBlank_c
          cases isBlank_c
  · intro begins
    exact begins.trans (List.prefix_append text rest)

/-- The longest match at the start of a text is known up to the first blank. -/
theorem Longest.append_iff {text rest value : List Char} {kind : Kind} (blank : BeginsBlank rest) :
    Longest (text ++ rest) value kind ↔ Longest text value kind := by
  have same (other : Kind) (value' : List Char) (spells : other.Spells value') :
      value' <+: text ++ rest ↔ value' <+: text := prefix_append_iff spells.not_blank blank
  constructor
  · intro longest
    refine ⟨(same _ _ longest.spells).1 longest.begins, longest.spells, ?_, ?_⟩
    · intro other value' begins spells
      exact longest.longest other value' ((same _ _ spells).2 begins) spells
    · intro other value' begins spells
      exact longest.first other value' ((same _ _ spells).2 begins) spells
  · intro longest
    refine ⟨(same _ _ longest.spells).2 longest.begins, longest.spells, ?_, ?_⟩
    · intro other value' begins spells
      exact longest.longest other value' ((same _ _ spells).1 begins) spells
    · intro other value' begins spells
      exact longest.first other value' ((same _ _ spells).1 begins) spells

/-! ### Cutting in front of a blank -/

section Append

variable {text rest : List Char} {offset : Nat} {tokens : List Token}

/-- A cut that comes to its end in front of a blank goes on with the cut of what is behind. -/
theorem Cut.append {tokens' : List Token} {stop : Option (Nat × Char)} (blank : BeginsBlank rest)
    (cut : Cut text offset tokens none)
    (behind : Cut rest (offset + text.length) tokens' stop) :
    Cut (text ++ rest) offset (tokens ++ tokens') stop := by
  generalize stop_eq : (none : Option (Nat × Char)) = none' at cut
  induction cut with
  | finished => exact behind
  | @blank c text offset tokens none' isBlank_c cut ih =>
      rw [List.length_cons, Nat.add_comm text.length 1, ← Nat.add_assoc] at behind
      exact .blank isBlank_c (ih behind stop_eq)
  | @token value text kind offset tokens none' longest cut ih =>
      rw [List.length_append, ← Nat.add_assoc] at behind
      have whole := (Longest.append_iff blank).2 longest
      rw [List.append_assoc] at whole ⊢
      exact .token whole (ih behind stop_eq)
  | invalid => cases stop_eq

/-- A cut that breaks off in front of a blank breaks off there whatever is behind. -/
theorem Cut.append_of_stop {place : Nat × Char} (blank : BeginsBlank rest)
    (cut : Cut text offset tokens (some place)) :
    Cut (text ++ rest) offset tokens (some place) := by
  generalize stop_eq : some place = stop at cut
  induction cut with
  | finished => cases stop_eq
  | blank isBlank_c cut ih => exact .blank isBlank_c (ih stop_eq)
  | token longest cut ih =>
      have whole := (Longest.append_iff blank).2 longest
      rw [List.append_assoc] at whole ⊢
      exact .token whole (ih stop_eq)
  | @invalid c text offset plain noMatch =>
      have same (value : List Char) (kind : Kind) :
          Longest (c :: text ++ rest) value kind ↔ Longest (c :: text) value kind :=
        Longest.append_iff blank
      exact .invalid plain fun value kind longest => noMatch value kind ((same value kind).1 longest)

/-- Blanks in front of a text are skipped. -/
theorem Cut.skip {blanks : List Char} {stop : Option (Nat × Char)}
    (areBlank : ∀ c ∈ blanks, isBlank c = true)
    (cut : Cut text (offset + blanks.length) tokens stop) :
    Cut (blanks ++ text) offset tokens stop := by
  induction blanks generalizing offset with
  | nil => exact cut
  | cons c blanks ih =>
      obtain ⟨isBlank_c, others⟩ := List.forall_mem_cons.1 areBlank
      rw [List.length_cons, Nat.add_comm blanks.length 1, ← Nat.add_assoc] at cut
      exact .blank isBlank_c (ih others cut)

end Append

/-! ### The same cut further on -/

/-- A token as it stands behind `n` more characters. -/
def Token.shift (n : Nat) (t : Token) : Token := { t with offset := t.offset + n }

/-- An invalid character as it stands in a text, behind `n` more characters. -/
def InvalidCharacter.shiftInto (text : String) (n : Nat) (e : InvalidCharacter) :
    InvalidCharacter :=
  ⟨e.offset + n, e.char, locate text (e.offset + n)⟩

/-- Cutting does not look at the offset. -/
theorem Cut.shift {text : List Char} {offset : Nat} {tokens : List Token}
    {stop : Option (Nat × Char)} (cut : Cut text offset tokens stop) (n : Nat) :
    Cut text (offset + n) (tokens.map (Token.shift n))
      (stop.map fun place => (place.1 + n, place.2)) := by
  induction cut with
  | finished => exact .finished
  | @blank c text offset tokens stop blank cut ih =>
      rw [Nat.add_right_comm] at ih
      exact .blank blank ih
  | @token value rest kind offset tokens stop longest cut ih =>
      rw [Nat.add_right_comm] at ih
      exact .token longest ih
  | invalid plain noMatch => exact .invalid plain noMatch

/-! ### Two texts with blanks between them -/

section Texts

variable (first second blanks : String) (areBlank : ∀ c ∈ blanks.toList, isBlank c = true)

include areBlank

/-- Blanks in front of a text only move its tokens. -/
theorem cut_skip {tokens : List Token} {stop : Option (Nat × Char)} (n : Nat)
    (cut : Cut second.toList 0 tokens stop) :
    Cut (blanks.toList ++ second.toList) n (tokens.map (Token.shift (n + blanks.length)))
      (stop.map fun place => (place.1 + (n + blanks.length), place.2)) := by
  apply Cut.skip areBlank
  have moved := cut.shift (n + blanks.length)
  rwa [Nat.zero_add, ← String.length_toList] at moved

/-- Cutting splits at blanks. Where one text ends well, the text that goes on behind blanks has its
    tokens and then those of the other, each as much further on; and it has an invalid character just
    when the other has, the same one. Where the first text fails, what goes on behind blanks makes no
    difference at all. -/
theorem tokenize_append_blanks (nonempty : blanks ≠ "") :
    ((tokenize first).fault = none →
      tokenize (first ++ blanks ++ second) =
        ⟨(tokenize first).tokens ++
            (tokenize second).tokens.map (Token.shift (first.length + blanks.length)),
          (tokenize second).fault.map (InvalidCharacter.shiftInto (first ++ blanks ++ second)
            (first.length + blanks.length))⟩) ∧
      ((tokenize first).fault ≠ none →
        tokenize (first ++ blanks ++ second) = tokenize first) := by
  have begins : BeginsBlank (blanks.toList ++ second.toList) := by
    intro c isFirst
    cases toList_eq : blanks.toList with
    | nil => exact absurd (String.toList_eq_nil_iff.1 toList_eq) nonempty
    | cons c' others =>
        rw [toList_eq] at isFirst
        cases isFirst
        exact areBlank c (by rw [toList_eq]; exact List.mem_cons_self)
  have whole_eq : (first ++ blanks ++ second).toList =
      first.toList ++ (blanks.toList ++ second.toList) := by
    rw [String.toList_append, String.toList_append, List.append_assoc]
  obtain ⟨stop, cut, fault_eq⟩ := exists_cut_tokenize first
  obtain ⟨stop', cut', fault_eq'⟩ := exists_cut_tokenize second
  constructor
  · intro noFault
    rw [noFault] at fault_eq
    obtain rfl := Option.map_eq_none_iff.1 fault_eq.symm
    have behind := cut_skip second blanks areBlank first.length cut'
    have joined := cut.append begins (by rwa [Nat.zero_add, String.length_toList])
    rw [← whole_eq] at joined
    rw [tokenize_of_cut joined, fault_eq', Option.map_map, Option.map_map]
    rfl
  · intro fails
    cases stop with
    | none => exact absurd fault_eq fails
    | some place =>
        obtain ⟨offset, char⟩ := place
        have joined := cut.append_of_stop begins
        rw [← whole_eq] at joined
        -- The character stands in the first text, so its line and column are told there.
        have inFirst : locate (first ++ blanks ++ second) offset = locate first offset := by
          obtain ⟨⟨before, after, text_eq, offset_eq, -⟩, -⟩ := cut.exists_stop
          refine locate_eq_of_take_eq (n := first.toList.length) ?_ ?_
          · rw [whole_eq, List.take_left, List.take_length]
          · rw [text_eq, offset_eq, List.length_append]
            omega
        rw [tokenize_of_cut joined, Option.map_some]
        simp only [inFirst]
        exact congrArg (TokenList.mk _) fault_eq.symm

end Texts

/-- A keyword broken off by a blank, and texts that fail on either side. -/
theorem tokenize_append_blanks_keyword :
    tokenize ("F" ++ " \t" ++ "orall%") =
        ⟨(tokenize "F").tokens ++ (tokenize "orall%").tokens.map (Token.shift 3),
          some ⟨8, '%', ⟨1, 9⟩⟩⟩ ∧
      tokenize ("p $" ++ "\n" ++ "q") = tokenize "p $" := by
  have fine : (tokenize "F").fault = none := by decide +kernel
  have fails : (tokenize "p $").fault ≠ none := by decide +kernel
  have found : (tokenize "orall%").fault = some ⟨5, '%', ⟨1, 6⟩⟩ := by decide +kernel
  constructor
  · have joined := (tokenize_append_blanks "F" "orall%" " \t" (List.all_eq_true.1 (by decide))
      (by decide)).1 fine
    rw [joined, found]
    decide +kernel
  · exact (tokenize_append_blanks "p $" "q" "\n" (List.all_eq_true.1 (by decide)) (by decide)).2
      fails

end ModalLanguage
