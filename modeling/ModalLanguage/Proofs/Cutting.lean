/-
Module: ModalLanguage.Proofs.Cutting
Purpose: Cutting a text piece by piece. A piece of text is cut into its tokens in front of a rest
  when reading goes on with the rest behind them, whatever was found before; such pieces can be put
  together. The pieces that canonical text is made of are single symbols, single blanks, and names,
  which end where no letter or digit follows.
Main exports: IsName, Breaks, lexeme?_name, Cuts, Cuts.append, cuts_lexeme, cuts_name,
  tokenize_of_cuts
-/
import ModalLanguage.Token.Longest

namespace ModalLanguage

/-! ### Names -/

/-- A name that can be read as one: a letter with digits behind it, but none of the letters that are
    words of their own. -/
structure IsName (name : String) : Prop where
  spelled : Kind.letter.Spells name.toList
  noKeyword : name ∉ ["T", "F", "A", "E"]

/-- What does not go on with a name. -/
def Breaks (rest : List Char) : Prop :=
  ∀ c ∈ rest.head?, c.isAlphanum = false

theorem breaks_nil : Breaks [] := nofun

theorem breaks_cons {c : Char} {rest : List Char} (plain : c.isAlphanum = false) :
    Breaks (c :: rest) := by
  intro first isFirst
  cases isFirst
  exact plain

theorem symbol?_eq_none {c : Char} (rest : List Char) (isLetter : c.isAlpha = true) :
    symbol? (c :: rest) = none := by
  have noLetters : ∀ symbol ∈ symbols, symbol.1.head?.any (fun first => !first.isAlpha) = true := by
    decide
  rw [symbol?, List.find?_eq_none]
  rintro ⟨spelling, kind⟩ member begins
  have first := noLetters _ member
  cases spelling with
  | nil => cases first
  | cons first' tail =>
      simp only [List.isPrefixOf_cons_cons, Bool.and_eq_true, beq_iff_eq] at begins
      simp [begins.1, isLetter] at first

theorem isAlpha_eq_false_of_isDigit {c : Char} (isDigit : c.isDigit = true) :
    c.isAlpha = false := by
  have atMostNine : c.toNat ≤ '9'.toNat := (Char.isDigit_iff_toNat.1 isDigit).2
  -- both alphabets begin behind the digits
  have behind (first : Char) (later : '9'.toNat < first.toNat) : ¬ c.val ≥ first.val := by
    intro atLeast
    have fits : first.toNat ≤ c.toNat := UInt32.le_iff_toNat_le.1 atLeast
    omega
  have notUpper : c.isUpper = false :=
    decide_eq_false fun between => behind 'A' (by decide) between.1
  have notLower : c.isLower = false :=
    Bool.and_eq_false_iff.2 (.inl (decide_eq_false (behind 'a' (by decide))))
  exact Bool.or_eq_false_iff.2 ⟨notUpper, notLower⟩

/-- Behind the first letter of every word there is another letter. -/
theorem words_find?_eq_none {c : Char} {tail : List Char}
    (noLetter : ∀ d ∈ tail.head?, d.isAlpha = false) :
    words.find? (fun word => word.isPrefixOf (c :: tail)) = none := by
  have second : ∀ word ∈ words, (word.drop 1).head?.any Char.isAlpha = true := by
    decide
  rw [List.find?_eq_none]
  intro word member begins
  have letter := second word member
  match word, begins, letter with
  | first :: next :: _, begins, letter =>
      have isLetter : next.isAlpha = true := by simpa using letter
      cases tail with
      | nil => simp at begins
      | cons d tail =>
          simp only [List.isPrefixOf_cons_cons, Bool.and_eq_true, beq_iff_eq] at begins
          rw [begins.2.1, noLetter d rfl] at isLetter
          cases isLetter

theorem wordKind_name {name : String} (isName : IsName name) :
    wordKind name.toList = .letter := by
  have keyword : ∀ keyword ∈ keywords, keyword.1 ∈ ["T", "F", "A", "E"] ∨
      (keyword.1.toList.drop 1).head?.any Char.isAlpha = true := by
    decide
  have noKeyword : keywords.find? (fun keyword => keyword.1.toList = name.toList) = none := by
    rw [List.find?_eq_none]
    rintro ⟨word, kind⟩ member same
    simp only [decide_eq_true_eq, String.toList_inj] at same
    rcases keyword _ member with single | letter
    · exact isName.noKeyword (same ▸ single)
    · obtain ⟨c, digits, name_eq, isLetter, areDigits⟩ := isName.spelled
      simp only [same, name_eq, List.drop_one, List.tail_cons] at letter
      cases digits with
      | nil => cases letter
      | cons d digits =>
          have isDigit := areDigits d List.mem_cons_self
          simp [isAlpha_eq_false_of_isDigit isDigit] at letter
  rw [wordKind, noKeyword]
  rfl

/-- A name is cut off as a whole where it breaks. -/
theorem lexeme?_name {name : String} {rest : List Char} (isName : IsName name)
    (breaks : Breaks rest) : lexeme? (name.toList ++ rest) = some (name.toList, .letter) := by
  have kind_eq := wordKind_name isName
  obtain ⟨c, digits, name_eq, isLetter, areDigits⟩ := isName.spelled
  have noLetter : ∀ d ∈ (digits ++ rest).head?, d.isAlpha = false := by
    intro d isFirst
    cases digits with
    | nil =>
        have plain := breaks d isFirst
        exact (Bool.or_eq_false_iff.1 plain).1
    | cons d' digits =>
        cases isFirst
        exact isAlpha_eq_false_of_isDigit (areDigits d List.mem_cons_self)
  have noDigit : rest.takeWhile Char.isDigit = [] := by
    cases rest with
    | nil => rfl
    | cons d rest =>
        have plain := breaks d rfl
        simp [(Bool.or_eq_false_iff.1 plain).2]
  have word_eq : word? (c :: (digits ++ rest)) = some (c :: digits) := by
    rw [word?, words_find?_eq_none noLetter]
    simp [isLetter, List.takeWhile_append_of_pos areDigits, noDigit]
  rw [name_eq] at kind_eq ⊢
  rw [List.cons_append, lexeme?, symbol?_eq_none _ isLetter, word_eq, Option.map_some, kind_eq]

/-! ### Pieces of text -/

/-- A piece of text is cut into tokens in front of a rest: reading goes on behind it with that. -/
def Cuts (text : List Char) (offset : Nat) (rest : List Char) (tokens : List Token) : Prop :=
  ∀ found, readTokens found (text ++ rest) offset =
    readTokens (tokens.reverse ++ found) rest (offset + text.length)

theorem readTokens_finished (found : List Token) (offset : Nat) :
    readTokens found [] offset = (found.reverse, none) := by
  rw [readTokens]
  rfl

theorem readTokens_token {text rest : List Char} {offset : Nat} {token : Token}
    (found : List Token) (read : readToken text offset = .token token rest) :
    readTokens found text offset = readTokens (token :: found) rest token.endOffset := by
  rw [readTokens]
  split <;> simp_all

theorem readTokens_blank {c : Char} (found : List Token) (text : List Char) (offset : Nat)
    (blank : isBlank c = true) :
    readTokens found (c :: text) offset = readTokens found text (offset + 1) := by
  have same : readToken (c :: text) offset = readToken text (offset + 1) := by
    rw [readToken, if_pos blank]
  rw [readTokens.eq_def found (c :: text), readTokens.eq_def found text, same]

theorem cuts_nil (offset : Nat) (rest : List Char) : Cuts [] offset rest [] :=
  fun _ => rfl

/-- Pieces are put together by what each of them is cut in front of. -/
theorem Cuts.append {first second rest : List Char} {offset : Nat} {tokens tokens' : List Token}
    (cuts : Cuts first offset (second ++ rest) tokens)
    (cuts' : Cuts second (offset + first.length) rest tokens') :
    Cuts (first ++ second) offset rest (tokens ++ tokens') := by
  intro found
  rw [List.append_assoc, cuts found, cuts', List.reverse_append, List.append_assoc,
    List.length_append, Nat.add_assoc]

theorem cuts_blank {c : Char} (offset : Nat) (rest : List Char) (blank : isBlank c = true) :
    Cuts [c] offset rest [] :=
  fun found => readTokens_blank found rest offset blank

/-- A token is cut off in front of every rest that leaves it whole. -/
theorem cuts_lexeme {value : String} {rest : List Char} {kind : Kind} (offset : Nat)
    (noBlank : value.toList.head?.any isBlank = false)
    (found : lexeme? (value.toList ++ rest) = some (value.toList, kind)) :
    Cuts value.toList offset rest [⟨kind, value, offset⟩] := by
  intro before
  obtain ⟨chars, rfl⟩ : ∃ chars, value = String.ofList chars := ⟨_, String.ofList_toList.symm⟩
  simp only [String.toList_ofList] at noBlank found ⊢
  cases chars with
  | nil => exact absurd rfl (lexeme?_ne_nil found)
  | cons c tail =>
      have plain : isBlank c = false := noBlank
      have read : readToken (c :: (tail ++ rest)) offset =
          .token ⟨kind, String.ofList (c :: tail), offset⟩ rest := by
        rw [readToken, plain]
        rw [List.cons_append] at found
        simp [found]
      rw [List.cons_append, readTokens_token before read, Token.endOffset, String.length_ofList]
      rfl

/-- A name is one token where it breaks. -/
theorem cuts_name {name : String} {rest : List Char} (offset : Nat) (isName : IsName name)
    (breaks : Breaks rest) : Cuts name.toList offset rest [⟨.letter, name, offset⟩] := by
  refine cuts_lexeme offset ?_ (lexeme?_name isName breaks)
  obtain ⟨c, digits, name_eq, isLetter, -⟩ := isName.spelled
  rw [name_eq]
  change isBlank c = false
  cases blank : isBlank c with
  | false => rfl
  | true =>
      simp only [isBlank, Bool.or_eq_true, decide_eq_true_eq] at blank
      rcases blank with (rfl | rfl) | rfl <;> cases isLetter

/-- A text that is cut as a whole has just the tokens of the cut. -/
theorem tokenize_of_cuts {text : String} {tokens : List Token}
    (cuts : Cuts text.toList 0 [] tokens) : tokenize text = ⟨tokens, none⟩ := by
  have read := cuts []
  rw [List.append_nil, List.append_nil, readTokens_finished, List.reverse_reverse] at read
  rw [tokenize, read]
  rfl

end ModalLanguage
