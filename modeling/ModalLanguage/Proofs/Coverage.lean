/-
Module: ModalLanguage.Proofs.Coverage
Purpose: Cutting a text loses nothing. Each token is a piece of the text at its own offset, the pieces
  do not overlap, and what stands between them is blank, up to the end of the text or to the
  character that begins no token. All of this is read off the cut, from any offset on: a token's piece
  (`Cut.exists_piece`), what belongs to no token (`Cut.spans_or_blank`), and where the cut breaks off
  (`Cut.exists_stop`).
Main exports: Token.Spans, Token.StandsIn, Token.IsSpelled, TokenList.Covers, standsIn_of_mem_tokenize,
  spans_or_blank_of_tokenize, tokens_cover_text
-/
import ModalLanguage.Proofs.Online

namespace ModalLanguage

namespace Token

/-- The places that a token takes up. -/
def Spans (t : Token) (place : Nat) : Prop := t.offset ≤ place ∧ place < t.endOffset

/-- The value of a token is what the text holds at the token's offset. -/
def StandsIn (t : Token) (text : String) : Prop :=
  ∃ before after, text.toList = before ++ t.value.toList ++ after ∧ t.offset = before.length

/-- The value of a token writes its kind. Names alone are no fixed spelling, and the kind of agents,
    whose letters are names, is that of no token. -/
def IsSpelled (t : Token) : Prop :=
  match t.kind with
  | .letter => IsName t.value
  | .agent => False
  | kind => t.value ∈ kind.spellings

end Token

/-! ### The pieces of a cut -/

section Cut

variable {text : List Char} {offset : Nat} {tokens : List Token} {stop : Option (Nat × Char)}

/-- Every token is a piece of what is cut. -/
theorem Cut.exists_piece (cut : Cut text offset tokens stop) {token : Token}
    (member : token ∈ tokens) :
    ∃ before after, text = before ++ token.value.toList ++ after ∧
      token.offset = offset + before.length := by
  induction cut with
  | finished | invalid => cases member
  | @blank c text offset tokens stop blank cut ih =>
      obtain ⟨before, after, rfl, offset_eq⟩ := ih member
      refine ⟨c :: before, after, rfl, ?_⟩
      rw [offset_eq, List.length_cons]
      omega
  | @token value rest kind offset tokens stop longest cut ih =>
      rcases List.mem_cons.1 member with rfl | behind
      · exact ⟨[], rest, by rw [String.toList_ofList]; rfl, rfl⟩
      · obtain ⟨before, after, rfl, offset_eq⟩ := ih behind
        refine ⟨value ++ before, after, by simp only [List.append_assoc], ?_⟩
        rw [offset_eq, List.length_append, Nat.add_assoc]

/-- A character in front of the place where the cut breaks off belongs to a token, or is blank. -/
theorem Cut.spans_or_blank (cut : Cut text offset tokens stop) {i : Nat} {c : Char}
    (there : text[i]? = some c) (inFront : ∀ place ∈ stop, offset + i < place.1) :
    (∃ token ∈ tokens, token.Spans (offset + i)) ∨ isBlank c = true := by
  induction cut generalizing i with
  | finished => cases there
  | @blank c' text offset tokens stop blank cut ih =>
      cases i with
      | zero =>
          cases there
          exact .inr blank
      | succ i =>
          rw [Nat.add_comm i 1, ← Nat.add_assoc] at inFront ⊢
          exact ih there inFront
  | @token value rest kind offset tokens stop longest cut ih =>
      rcases Nat.lt_or_ge i value.length with inside | behind
      · refine .inl ⟨_, List.mem_cons_self, Nat.le_add_right _ _, ?_⟩
        rw [Token.endOffset, String.length_ofList]
        exact Nat.add_lt_add_left inside _
      · obtain ⟨j, rfl⟩ := Nat.exists_eq_add_of_le behind
        rw [List.getElem?_append_right behind, Nat.add_sub_cancel_left] at there
        rw [← Nat.add_assoc] at inFront ⊢
        rcases ih there inFront with ⟨token, member, spans⟩ | blank
        · exact .inl ⟨token, List.mem_cons_of_mem _ member, spans⟩
        · exact .inr blank
  | @invalid c' text offset plain noMatch =>
      have before := inFront _ rfl
      omega

/-- A cut breaks off behind its tokens, at a character of the text that is not blank and with which no
    token begins. -/
theorem Cut.exists_stop {o : Nat} {c : Char} (cut : Cut text offset tokens (some (o, c))) :
    (∃ before after, text = before ++ c :: after ∧ o = offset + before.length ∧
      isBlank c = false ∧ ∀ value kind, ¬ Longest (c :: after) value kind) ∧
      ∀ token ∈ tokens, token.endOffset ≤ o := by
  generalize stop_eq : some (o, c) = stop at cut
  induction cut with
  | finished => cases stop_eq
  | @blank c' text offset tokens stop blank cut ih =>
      obtain ⟨⟨before, after, rfl, place_eq, noToken⟩, ends⟩ := ih stop_eq
      refine ⟨⟨c' :: before, after, rfl, ?_, noToken⟩, ends⟩
      rw [place_eq, List.length_cons]
      omega
  | @token value rest kind offset tokens stop longest cut ih =>
      obtain ⟨⟨before, after, rfl, place_eq, noToken⟩, ends⟩ := ih stop_eq
      refine ⟨⟨value ++ before, after, by simp only [List.append_assoc], ?_, noToken⟩, ?_⟩
      · rw [place_eq, List.length_append, Nat.add_assoc]
      · intro token member
        rcases List.mem_cons.1 member with rfl | behind
        · rw [Token.endOffset, String.length_ofList, place_eq]
          exact Nat.le_add_right _ _
        · exact ends token behind
  | @invalid c' text offset plain noMatch =>
      cases stop_eq
      exact ⟨⟨[], text, rfl, rfl, plain, noMatch⟩, fun _ member => absurd member List.not_mem_nil⟩

end Cut

/-! ### The tokens of a text -/

/-- A text is cut up to its invalid character, if it has one. -/
theorem exists_cut_tokenize (text : String) :
    ∃ stop, Cut text.toList 0 (tokenize text).tokens stop ∧
      (tokenize text).fault =
        stop.map fun (offset, char) => ⟨offset, char, locate text offset⟩ := by
  obtain ⟨tokens, stop, cut⟩ := exists_cut text.toList 0
  rw [tokenize_of_cut cut]
  exact ⟨stop, cut, rfl⟩

/-- The text is cut up to its invalid character. -/
theorem cut_of_fault {text : String} {fault : InvalidCharacter}
    (found : (tokenize text).fault = some fault) :
    Cut text.toList 0 (tokenize text).tokens (some (fault.offset, fault.char)) ∧
      fault.position = locate text fault.offset := by
  obtain ⟨stop, cut, fault_eq⟩ := exists_cut_tokenize text
  rw [found] at fault_eq
  obtain ⟨⟨offset, char⟩, rfl, rfl⟩ := Option.map_eq_some_iff.1 fault_eq.symm
  exact ⟨cut, rfl⟩

theorem standsIn_of_mem_tokenize {text : String} {token : Token}
    (member : token ∈ (tokenize text).tokens) : token.StandsIn text := by
  obtain ⟨stop, cut⟩ := cut_tokenize text
  obtain ⟨before, after, text_eq, offset_eq⟩ := cut.exists_piece member
  exact ⟨before, after, text_eq, by rw [offset_eq, Nat.zero_add]⟩

theorem isSpelled_of_mem_tokenize {text : String} {token : Token}
    (member : token ∈ (tokenize text).tokens) : token.IsSpelled := by
  by_cases isLetter : token.kind = .letter
  · have isName := isName_of_mem_tokenize member isLetter
    simpa [Token.IsSpelled, isLetter] using isName
  · have noAgent := kind_ne_agent_of_mem_tokenize member
    obtain ⟨stop, cut⟩ := cut_tokenize text
    obtain ⟨rest, value, longest, value_eq⟩ := cut.exists_longest member
    have spelled := (Kind.spells_iff_of_ne isLetter noAgent value).1 longest.spells
    obtain ⟨spelling, isSpelling, rfl⟩ := List.mem_map.1 spelled
    rw [String.ofList_toList] at value_eq
    rw [← value_eq] at isSpelling
    unfold Token.IsSpelled
    split
    · exact absurd ‹_› isLetter
    · exact absurd ‹_› noAgent
    · exact isSpelling

/-- In front of the invalid character, or anywhere if there is none, what belongs to no token is
    blank. -/
theorem spans_or_blank_of_tokenize {text : String} {place : Nat} {c : Char}
    (there : text.toList[place]? = some c)
    (inFront : ∀ fault ∈ (tokenize text).fault, place < fault.offset) :
    (∃ token ∈ (tokenize text).tokens, token.Spans place) ∨ isBlank c = true := by
  obtain ⟨stop, cut, fault_eq⟩ := exists_cut_tokenize text
  have known : ∀ stopped ∈ stop, 0 + place < stopped.1 := by
    rintro stopped rfl
    rw [Nat.zero_add]
    exact inFront _ fault_eq
  have belongs := cut.spans_or_blank there known
  rwa [Nat.zero_add] at belongs

/-- The tokens of a text, and its invalid character if it has one, tell where every character of the
    text has gone. -/
structure TokenList.Covers (list : TokenList) (text : String) : Prop where
  /-- The tokens stand in order and do not overlap. -/
  ordered : list.tokens.Pairwise fun first later =>
    first.offset < later.offset ∧ first.endOffset ≤ later.offset
  /-- Each of them is a piece of the text, and no piece is empty. -/
  stands : ∀ token ∈ list.tokens, token.StandsIn text ∧ token.value ≠ ""
  /-- What is written there is a spelling of the token's kind. -/
  spelled : ∀ token ∈ list.tokens, token.IsSpelled
  /-- What belongs to no token is blank, as far as the text was cut. -/
  blank : ∀ place c, text.toList[place]? = some c →
    (∀ fault ∈ list.fault, place < fault.offset) →
    (∃ token ∈ list.tokens, token.Spans place) ∨ isBlank c = true
  /-- The text was cut up to its invalid character, and no token reaches it. -/
  stopped : ∀ fault ∈ list.fault, text.toList[fault.offset]? = some fault.char ∧
    ∀ token ∈ list.tokens, token.endOffset ≤ fault.offset

/-- Cutting a text into tokens accounts for every character. -/
theorem tokens_cover_text (text : String) : (tokenize text).Covers text where
  ordered := by
    obtain ⟨stop, cut⟩ := cut_tokenize text
    refine cut.pairwise.imp_of_mem ?_
    intro first later member _ ends
    exact ⟨(offset_lt_endOffset member).trans_le ends, ends⟩
  stands token member := by
    refine ⟨standsIn_of_mem_tokenize member, ?_⟩
    intro empty
    have long := offset_lt_endOffset member
    rw [Token.endOffset, empty] at long
    exact absurd long (Nat.lt_irrefl _)
  spelled token member := isSpelled_of_mem_tokenize member
  blank place c there inFront := spans_or_blank_of_tokenize there inFront
  stopped fault found := by
    obtain ⟨⟨before, after, text_eq, place_eq, -⟩, ends⟩ := (cut_of_fault found).1.exists_stop
    rw [Nat.zero_add] at place_eq
    refine ⟨?_, ends⟩
    rw [text_eq, place_eq]
    simp

/-- Blanks on both ends and inside, and an invalid character in the middle. -/
example : tokenize " p1\t&\n%q" =
    ⟨[⟨.letter, "p1", 1⟩, ⟨.conjunction, "&", 4⟩], some ⟨6, '%', ⟨2, 1⟩⟩⟩ := by
  decide +kernel

end ModalLanguage
