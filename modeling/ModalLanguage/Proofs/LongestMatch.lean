/-
Module: ModalLanguage.Proofs.LongestMatch
Purpose: The ordered rules find the longest match. No rule compares lengths: a symbol is found
  before every symbol that it begins with, a whole keyword before the letter that it starts with,
  and of two kinds with one spelling the keyword is found. So whatever the rules find is the longest
  spelling at the start of a text, of the kind that is declared first (`lexeme?_eq_some_iff`), and
  they find nothing only where no kind has a spelling. Reading token after token is then cutting the
  text by longest matches. A name that was cut off is a name, and the letter of an agent is never
  cut off as one.
Main exports: Kind.Spells.cases, Longest.unique, lexeme?_eq_some_iff, lexeme?_eq_none_iff,
  exists_cut, Cut.readTokens, cut_tokenize, tokenize_is_longest_match, isName_of_mem_tokenize,
  kind_ne_agent_of_mem_tokenize
-/
import Mathlib.Data.List.Basic
import Mathlib.Data.List.TakeWhile
import ModalLanguage.Proofs.Cutting

namespace ModalLanguage

/-! ### What spells a kind -/

theorem mem_keywords_iff (word : String) (kind : Kind) :
    (word, kind) ∈ keywords ↔ word ∈ kind.spellings ∧ isWord word = true := by
  simp only [keywords, List.mem_flatMap, List.mem_map, List.mem_filter, Prod.mk.injEq]
  constructor
  · rintro ⟨kind', -, word', spelled, rfl, rfl⟩
    exact spelled
  · intro spelled
    exact ⟨kind, kind.mem_all, word, spelled, rfl, rfl⟩

/-- Only letters and agents are spelled by patterns. -/
theorem Kind.spells_iff_of_ne {kind : Kind} (noLetter : kind ≠ .letter) (noAgent : kind ≠ .agent)
    (value : List Char) : kind.Spells value ↔ value ∈ kind.spellings.map String.toList := by
  cases kind with
  | letter => exact absurd rfl noLetter
  | agent => exact absurd rfl noAgent
  | _ => exact Iff.rfl

theorem spells_of_mem_symbols {value : List Char} {kind : Kind} (member : (value, kind) ∈ symbols) :
    kind.Spells value := by
  rw [mem_symbols_iff, List.mem_map] at member
  obtain ⟨spelling, member, rfl⟩ := member
  have spelled := (List.mem_filter.1 member).1
  rw [Kind.spells_iff_of_ne]
  · exact List.mem_map_of_mem spelled
  · rintro rfl
    cases spelled
  · rintro rfl
    cases spelled

theorem spells_of_mem_keywords {word : String} {kind : Kind} (member : (word, kind) ∈ keywords) :
    kind.Spells word.toList := by
  have spelled := ((mem_keywords_iff word kind).1 member).1
  rw [Kind.spells_iff_of_ne]
  · exact List.mem_map_of_mem spelled
  · rintro rfl
    cases spelled
  · rintro rfl
    cases spelled

/-- A spelling is a symbol, a keyword, a name or the letter of an agent. -/
theorem Kind.Spells.cases {kind : Kind} {value : List Char} (spells : kind.Spells value) :
    (value, kind) ∈ symbols ∨ (∃ word, (word, kind) ∈ keywords ∧ word.toList = value) ∨
      (kind = .letter ∧ ∃ c digits, value = c :: digits ∧ c.isAlpha = true ∧
        ∀ d ∈ digits, d.isDigit = true) ∨
      (kind = .agent ∧ ∃ c ∈ ['a', 'b', 'c', 'd'], value = [c]) := by
  by_cases isLetter : kind = .letter
  · subst isLetter
    exact .inr (.inr (.inl ⟨rfl, spells⟩))
  by_cases isAgent : kind = .agent
  · subst isAgent
    exact .inr (.inr (.inr ⟨rfl, spells⟩))
  rw [Kind.spells_iff_of_ne isLetter isAgent, List.mem_map] at spells
  obtain ⟨spelling, spelled, rfl⟩ := spells
  cases word : isWord spelling with
  | true => exact .inr (.inl ⟨spelling, (mem_keywords_iff spelling kind).2 ⟨spelled, word⟩, rfl⟩)
  | false =>
      refine .inl ((mem_symbols_iff _ kind).2 (List.mem_map_of_mem ?_))
      exact List.mem_filter.2 ⟨spelled, by simp [word]⟩

theorem isAlpha_of_mem_agents {c : Char} (isAgent : c ∈ ['a', 'b', 'c', 'd']) :
    c.isAlpha = true := by
  simp only [List.mem_cons, List.not_mem_nil, or_false] at isAgent
  rcases isAgent with rfl | rfl | rfl | rfl <;> rfl

/-- Whatever is no symbol begins with a letter. -/
theorem Kind.Spells.mem_symbols_or {kind : Kind} {value : List Char} (spells : kind.Spells value) :
    (value, kind) ∈ symbols ∨ ∃ c rest, value = c :: rest ∧ c.isAlpha = true := by
  have lettered : ∀ keyword ∈ keywords, keyword.1.toList.head?.any Char.isAlpha = true := by
    decide
  rcases spells.cases with symbol | ⟨word, member, rfl⟩ | ⟨-, c, digits, rfl, isLetter, -⟩ |
    ⟨-, c, isAgent, rfl⟩
  · exact .inl symbol
  · have first := lettered _ member
    cases value : word.toList with
    | nil => simp [value] at first
    | cons c rest => exact .inr ⟨c, rest, rfl, by simpa [value] using first⟩
  · exact .inr ⟨c, digits, rfl, isLetter⟩
  · exact .inr ⟨c, [], rfl, isAlpha_of_mem_agents isAgent⟩

theorem Kind.Spells.ne_nil {kind : Kind} {value : List Char} (spells : kind.Spells value) :
    value ≠ [] := by
  have nonempty : ∀ symbol ∈ symbols, symbol.1 ≠ [] := by decide
  rcases spells.mem_symbols_or with symbol | ⟨c, rest, rfl, -⟩
  · exact nonempty _ symbol
  · exact List.cons_ne_nil c rest

/-! ### The longest match -/

theorem eq_of_prefix_of_length_eq {first second text : List Char} (begins : first <+: text)
    (begins' : second <+: text) (same : first.length = second.length) : first = second :=
  (List.prefix_of_prefix_length_le begins begins' same.le).eq_of_length same

theorem Kind.not_declaredBefore_self (kind : Kind) : ¬ kind.DeclaredBefore kind :=
  Nat.lt_irrefl _

/-- Of two kinds the one or the other is declared before, unless they are the same. -/
theorem Kind.declaredBefore_or (first later : Kind) :
    first.DeclaredBefore later ∨ first = later ∨ later.DeclaredBefore first := by
  rcases Nat.lt_trichotomy (Kind.all.idxOf first) (Kind.all.idxOf later) with before | same | behind
  · exact .inl before
  · exact .inr (.inl ((List.idxOf_inj first.mem_all).1 same))
  · exact .inr (.inr behind)

namespace Longest

variable {text value : List Char} {kind : Kind}

/-- A spelling is the longest match when every other one at the start of the text is shorter, or is
    the same and its kind is not declared before. -/
theorem of_beats (begins : value <+: text) (spells : kind.Spells value)
    (beats : ∀ (other : Kind) (value' : List Char), value' <+: text → other.Spells value' →
      value'.length < value.length ∨ value' = value ∧ ¬ other.DeclaredBefore kind) :
    Longest text value kind where
  begins := begins
  spells := spells
  longest other value' begins' spells' := by
    rcases beats other value' begins' spells' with shorter | ⟨rfl, -⟩
    · exact shorter.le
    · exact le_rfl
  first other value' begins' spells' before := by
    rcases beats other value' begins' spells' with shorter | ⟨-, notBefore⟩
    · exact shorter
    · exact absurd before notBefore

/-- A text has one longest match. -/
theorem unique {value' : List Char} {kind' : Kind} (match₁ : Longest text value kind)
    (match₂ : Longest text value' kind') : value = value' ∧ kind = kind' := by
  have atMost := match₂.longest kind value match₁.begins match₁.spells
  have atLeast := match₁.longest kind' value' match₂.begins match₂.spells
  obtain rfl := eq_of_prefix_of_length_eq match₁.begins match₂.begins (by omega)
  rcases kind.declaredBefore_or kind' with before | same | before
  · have shorter := match₂.first kind value match₁.begins match₁.spells before
    exact absurd shorter (Nat.lt_irrefl _)
  · exact ⟨rfl, same⟩
  · have shorter := match₁.first kind' value match₂.begins match₂.spells before
    exact absurd shorter (Nat.lt_irrefl _)

end Longest

/-! ### Symbols -/

/-- The symbol that is found first is longer than every other one at the start of the text. -/
theorem symbol?_beats {text value value' : List Char} {kind kind' : Kind}
    (found : symbol? text = some (value, kind)) (member : (value', kind') ∈ symbols)
    (begins' : value' <+: text) :
    value'.length < value.length ∨ value' = value ∧ kind' = kind := by
  obtain ⟨begins, before, behind, symbols_eq, noneBefore⟩ := List.find?_eq_some_iff_append.1 found
  rw [List.isPrefixOf_iff_prefix] at begins
  have ordered := symbols_ordered
  rw [symbols_eq, List.pairwise_append, List.pairwise_cons] at ordered
  rw [symbols_eq, List.mem_append, List.mem_cons] at member
  rcases member with earlier | same | later
  · have refused := noneBefore _ earlier
    rw [List.isPrefixOf_iff_prefix.2 begins'] at refused
    cases refused
  · cases same
    exact .inr ⟨rfl, rfl⟩
  · -- A later symbol does not begin with this one, so this one begins with it.
    have notLonger := ordered.2.1.1 _ later
    refine .inl (Nat.lt_of_not_le fun longer => ?_)
    rw [List.isPrefixOf_iff_prefix.2 (List.prefix_of_prefix_length_le begins begins' longer)]
      at notLonger
    cases notLonger

theorem longest_of_symbol? {text value : List Char} {kind : Kind}
    (found : symbol? text = some (value, kind)) : Longest text value kind := by
  have member : (value, kind) ∈ symbols := List.mem_of_find?_eq_some found
  have begins : value <+: text := by
    rw [symbol?, List.find?_eq_some_iff_append] at found
    exact List.isPrefixOf_iff_prefix.1 found.1
  refine .of_beats begins (spells_of_mem_symbols member) ?_
  intro other value' begins' spells'
  rcases spells'.mem_symbols_or with symbol | ⟨c, rest, rfl, isLetter⟩
  · rcases symbol?_beats found symbol begins' with shorter | ⟨rfl, rfl⟩
    · exact .inl shorter
    · exact .inr ⟨rfl, other.not_declaredBefore_self⟩
  · obtain ⟨tail, rfl⟩ := begins'
    rw [List.cons_append, symbol?_eq_none _ isLetter] at found
    cases found

/-! ### Words -/

/-- The kind of a word is that of the keyword that it is, and otherwise it is a name. -/
theorem wordKind_cases (word : List Char) :
    (∃ keyword, (keyword, wordKind word) ∈ keywords ∧ keyword.toList = word) ∨
      wordKind word = .letter ∧ ∀ keyword ∈ keywords, keyword.1.toList ≠ word := by
  unfold wordKind
  cases found : keywords.find? (fun keyword => keyword.1.toList = word) with
  | some keyword =>
      have same : keyword.1.toList = word := by simpa using List.find?_some found
      exact .inl ⟨keyword.1, List.mem_of_find?_eq_some found, same⟩
  | none =>
      refine .inr ⟨rfl, ?_⟩
      intro keyword member same
      have differs := List.find?_eq_none.1 found keyword member
      simp [same] at differs

/-- No keyword stands for two kinds. -/
theorem wordKind_keyword : ∀ keyword ∈ keywords, wordKind keyword.1.toList = keyword.2 := by
  decide

/-- A keyword is one of the words, or a single letter. -/
theorem keyword_cases : ∀ keyword ∈ keywords,
    keyword.1.toList ∈ words ∨ keyword.1.toList.length = 1 := by
  decide

/-- No word begins another one. -/
theorem eq_of_prefix_of_mem_words : ∀ first ∈ words, ∀ second ∈ words, first <+: second →
    first = second := by
  decide

/-- Names come behind every keyword. -/
theorem not_letter_declaredBefore_wordKind (word : List Char) :
    ¬ Kind.letter.DeclaredBefore (wordKind word) := by
  have behind : ∀ keyword ∈ keywords, ¬ Kind.letter.DeclaredBefore keyword.2 := by
    unfold Kind.DeclaredBefore
    decide
  rcases wordKind_cases word with ⟨keyword, member, -⟩ | ⟨isLetter, -⟩
  · exact behind _ member
  · rw [isLetter]
    exact Kind.letter.not_declaredBefore_self

/-- The agents come last. -/
theorem Kind.not_agent_declaredBefore (kind : Kind) : ¬ Kind.agent.DeclaredBefore kind := by
  unfold DeclaredBefore
  cases kind <;> decide

/-- Behind the first letter of a word there is no digit. -/
theorem digits_eq_nil_of_mem_words {text word : List Char} {c : Char} {digits : List Char}
    (member : word ∈ words) (begins : word <+: text) (begins' : c :: digits <+: text)
    (areDigits : ∀ d ∈ digits, d.isDigit = true) : digits = [] := by
  cases digits with
  | nil => rfl
  | cons d digits =>
      exfalso
      obtain ⟨tail, rfl⟩ := begins'
      have noLetter : ∀ next ∈ (d :: digits ++ tail).head?, next.isAlpha = false := by
        intro next isNext
        cases isNext
        exact isAlpha_eq_false_of_isDigit (areDigits d List.mem_cons_self)
      have refused := List.find?_eq_none.1 (words_find?_eq_none (c := c) noLetter) word member
      exact refused (List.isPrefixOf_iff_prefix.2 begins)

theorem one_lt_length_of_mem_words : ∀ word ∈ words, 1 < word.length := by
  decide

/-- A whole word is longer than the letter that it starts with. -/
theorem longest_of_words {text word : List Char} (noSymbol : symbol? text = none)
    (member : word ∈ words) (begins : word <+: text) : Longest text word (wordKind word) := by
  have long := one_lt_length_of_mem_words word member
  have spells : (wordKind word).Spells word := by
    have known : ∀ word ∈ words, ∃ keyword ∈ keywords, keyword.1.toList = word := by decide
    obtain ⟨⟨keyword, kind⟩, isKeyword, rfl⟩ := known word member
    rw [wordKind_keyword _ isKeyword]
    exact spells_of_mem_keywords isKeyword
  refine .of_beats begins spells ?_
  intro other value' begins' spells'
  rcases spells'.cases with symbol | ⟨keyword, isKeyword, rfl⟩ | ⟨-, c, digits, rfl, -, areDigits⟩ |
    ⟨-, c, -, rfl⟩
  · have refused := List.find?_eq_none.1 noSymbol _ symbol
    exact absurd (List.isPrefixOf_iff_prefix.2 begins') refused
  · rcases keyword_cases _ isKeyword with isWord | single
    · have same : keyword.toList = word := by
        rcases List.prefix_or_prefix_of_prefix begins' begins with shorter | longer
        · exact eq_of_prefix_of_mem_words _ isWord _ member shorter
        · exact (eq_of_prefix_of_mem_words _ member _ isWord longer).symm
      refine .inr ⟨same, ?_⟩
      rw [← same, wordKind_keyword _ isKeyword]
      exact other.not_declaredBefore_self
    · exact .inl (single.trans_lt long)
  · rw [digits_eq_nil_of_mem_words member begins begins' areDigits]
    exact .inl long
  · exact .inl long

/-- What is as short as a letter is shorter than the match, or is the match itself. -/
theorem beats_of_length_eq_one {text value value' : List Char} {kind other : Kind}
    (begins : value <+: text) (nonempty : value ≠ []) (begins' : value' <+: text)
    (short : value'.length = 1) (notBefore : value' = value → ¬ other.DeclaredBefore kind) :
    value'.length < value.length ∨ value' = value ∧ ¬ other.DeclaredBefore kind := by
  have positive := List.length_pos_iff.2 nonempty
  rcases Nat.lt_or_ge value'.length value.length with shorter | atLeast
  · exact .inl shorter
  · have same := eq_of_prefix_of_length_eq begins' begins (by omega)
    exact .inr ⟨same, notBefore same⟩

/-- Where no word stands, a letter with all digits behind it is the longest match. -/
theorem longest_of_letter {c : Char} {rest : List Char} (isLetter : c.isAlpha = true)
    (noWord : words.find? (fun word => word.isPrefixOf (c :: rest)) = none) :
    Longest (c :: rest) (c :: rest.takeWhile Char.isDigit)
      (wordKind (c :: rest.takeWhile Char.isDigit)) := by
  let word := c :: rest.takeWhile Char.isDigit
  have begins : word <+: c :: rest := List.cons_prefix_cons.2 ⟨rfl, List.takeWhile_prefix _⟩
  have areDigits : ∀ d ∈ rest.takeWhile Char.isDigit, d.isDigit = true :=
    fun d member => List.mem_takeWhile_imp member
  have spells : (wordKind word).Spells word := by
    rcases wordKind_cases word with ⟨keyword, isKeyword, same⟩ | ⟨isName, -⟩
    · rw [← same] at isKeyword ⊢
      exact spells_of_mem_keywords isKeyword
    · rw [isName]
      exact ⟨c, rest.takeWhile Char.isDigit, rfl, isLetter, areDigits⟩
  refine .of_beats begins spells ?_
  intro other value' begins' spells'
  rcases spells'.cases with symbol | ⟨keyword, isKeyword, rfl⟩ |
    ⟨rfl, c', digits, rfl, -, areDigits'⟩ | ⟨rfl, c', -, rfl⟩
  · have refused := List.find?_eq_none.1 (symbol?_eq_none rest isLetter) _ symbol
    exact absurd (List.isPrefixOf_iff_prefix.2 begins') refused
  · rcases keyword_cases _ isKeyword with isWord | short
    · have refused := List.find?_eq_none.1 noWord _ isWord
      exact absurd (List.isPrefixOf_iff_prefix.2 begins') refused
    · refine beats_of_length_eq_one begins (List.cons_ne_nil _ _) begins' short ?_
      intro same
      rw [← same, wordKind_keyword _ isKeyword]
      exact other.not_declaredBefore_self
  · obtain ⟨rfl, inRest⟩ := List.cons_prefix_cons.1 begins'
    have within : digits <+: rest.takeWhile Char.isDigit := by
      obtain ⟨tail, rfl⟩ := inRest
      rw [List.takeWhile_append_of_pos areDigits']
      exact List.prefix_append _ _
    rcases within.length_le.lt_or_eq with shorter | same
    · exact .inl (Nat.succ_lt_succ shorter)
    · rw [within.eq_of_length same]
      exact .inr ⟨rfl, not_letter_declaredBefore_wordKind _⟩
  · refine beats_of_length_eq_one begins (List.cons_ne_nil _ _) begins' rfl ?_
    intro _
    exact Kind.not_agent_declaredBefore _

/-! ### The rules -/

/-- Whatever the rules find is the longest match. -/
theorem longest_of_lexeme? {text value : List Char} {kind : Kind}
    (found : lexeme? text = some (value, kind)) : Longest text value kind := by
  unfold lexeme? at found
  split at found
  · rename_i symbol
    cases found
    exact longest_of_symbol? symbol
  · rename_i noSymbol
    obtain ⟨word, read, same⟩ := Option.map_eq_some_iff.1 found
    cases same
    unfold word? at read
    split at read
    · rename_i whole
      cases read
      have begins := (List.find?_eq_some_iff_append.1 whole).1
      exact longest_of_words noSymbol (List.mem_of_find?_eq_some whole)
        (List.isPrefixOf_iff_prefix.1 begins)
    · rename_i noWord
      split at read
      · cases read
      · split at read
        · rename_i isLetter
          cases read
          exact longest_of_letter isLetter noWord
        · cases read

/-- The rules find nothing only where no kind has a spelling. -/
theorem not_spells_of_lexeme? {text : List Char} (nothing : lexeme? text = none) {kind : Kind}
    {value : List Char} (begins : value <+: text) : ¬ kind.Spells value := by
  intro spells
  unfold lexeme? at nothing
  split at nothing
  · cases nothing
  · rename_i noSymbol
    rcases spells.mem_symbols_or with symbol | ⟨c, rest, rfl, isLetter⟩
    · have refused := List.find?_eq_none.1 noSymbol _ symbol
      exact refused (List.isPrefixOf_iff_prefix.2 begins)
    · obtain ⟨tail, rfl⟩ := begins
      rw [Option.map_eq_none_iff, List.cons_append, word?.eq_def] at nothing
      split at nothing
      · cases nothing
      · simp [isLetter] at nothing

/-- The rules find exactly the longest match. -/
theorem lexeme?_eq_some_iff (text value : List Char) (kind : Kind) :
    lexeme? text = some (value, kind) ↔ Longest text value kind := by
  constructor
  · exact longest_of_lexeme?
  · intro longest
    cases found : lexeme? text with
    | none => exact absurd longest.spells (not_spells_of_lexeme? found longest.begins)
    | some lexeme =>
        obtain ⟨rfl, rfl⟩ := longest.unique (longest_of_lexeme? found)
        rfl

/-- They find nothing where there is no match at all. -/
theorem lexeme?_eq_none_iff (text : List Char) :
    lexeme? text = none ↔ ∀ value kind, ¬ Longest text value kind := by
  constructor
  · intro nothing value kind longest
    exact not_spells_of_lexeme? nothing longest.begins longest.spells
  · intro noMatch
    cases found : lexeme? text with
    | none => rfl
    | some lexeme => exact absurd (longest_of_lexeme? found) (noMatch _ _)

/-! ### Cutting a whole text -/

/-- No token begins with a blank. -/
theorem lexeme?_blank {c : Char} (rest : List Char) (blank : isBlank c = true) :
    lexeme? (c :: rest) = none := by
  simp only [isBlank, Bool.or_eq_true, decide_eq_true_eq] at blank
  rcases blank with (rfl | rfl) | rfl <;> rfl

/-- Every text can be cut. -/
theorem exists_cut (text : List Char) (offset : Nat) :
    ∃ tokens stop, Cut text offset tokens stop := by
  induction size : text.length using Nat.strong_induction_on generalizing text offset with
  | _ n ih =>
      subst size
      cases text with
      | nil => exact ⟨[], none, .finished⟩
      | cons c cs =>
          cases blank : isBlank c with
          | true =>
              obtain ⟨tokens, stop, cut⟩ := ih cs.length (Nat.lt_succ_self _) cs (offset + 1) rfl
              exact ⟨tokens, stop, .blank blank cut⟩
          | false =>
              cases found : lexeme? (c :: cs) with
              | none => exact ⟨[], _, .invalid blank ((lexeme?_eq_none_iff _).1 found)⟩
              | some lexeme =>
                  have longest := (lexeme?_eq_some_iff _ lexeme.1 lexeme.2).1 found
                  obtain ⟨rest, text_eq⟩ := longest.begins
                  have shorter : rest.length < (c :: cs).length := by
                    have positive := List.length_pos_iff.2 longest.spells.ne_nil
                    rw [← text_eq, List.length_append]
                    omega
                  obtain ⟨tokens, stop, cut⟩ :=
                    ih rest.length shorter rest (offset + lexeme.1.length) rfl
                  rw [← text_eq] at longest ⊢
                  exact ⟨_, stop, .token longest cut⟩

theorem readTokens_invalid {c : Char} {text : List Char} (found : List Token) (offset : Nat)
    (plain : isBlank c = false) (nothing : lexeme? (c :: text) = none) :
    readTokens found (c :: text) offset = (found.reverse, some (offset, c)) := by
  have read : readToken (c :: text) offset = .invalid offset c := by
    simp [readToken, plain, nothing]
  rw [readTokens]
  split <;> simp_all

/-- Reading token after token is cutting. -/
theorem Cut.readTokens {text : List Char} {offset : Nat} {tokens : List Token}
    {stop : Option (Nat × Char)} (cut : Cut text offset tokens stop) (found : List Token) :
    ModalLanguage.readTokens found text offset = (found.reverse ++ tokens, stop) := by
  induction cut generalizing found with
  | finished => rw [readTokens_finished, List.append_nil]
  | blank blank cut ih => rw [readTokens_blank found _ _ blank, ih]
  | @token value rest kind offset tokens stop longest cut ih =>
      have lexeme := (lexeme?_eq_some_iff _ _ _).2 longest
      have plain : value.head?.any isBlank = false := by
        cases value with
        | nil => rfl
        | cons c cs =>
            rw [List.head?_cons, Option.any_some, Bool.eq_false_iff]
            intro blank
            rw [List.cons_append, lexeme?_blank _ blank] at lexeme
            cases lexeme
      have cuts : Cuts (String.ofList value).toList offset rest
          [⟨kind, String.ofList value, offset⟩] := by
        apply cuts_lexeme
        · rw [String.toList_ofList]
          exact plain
        · rw [String.toList_ofList]
          exact lexeme
      rw [String.toList_ofList] at cuts
      rw [cuts found, ih]
      simp
  | invalid plain noMatch =>
      rw [readTokens_invalid found _ plain ((lexeme?_eq_none_iff _).2 noMatch), List.append_nil]

/-- The tokens of a text are those of the only way to cut it. -/
theorem tokenize_of_cut {text : String} {tokens : List Token} {stop : Option (Nat × Char)}
    (cut : Cut text.toList 0 tokens stop) :
    tokenize text =
      ⟨tokens, stop.map fun (offset, char) => ⟨offset, char, locate text offset⟩⟩ := by
  rw [tokenize, cut.readTokens]
  rfl

theorem cut_tokenize (text : String) :
    ∃ stop, Cut text.toList 0 (tokenize text).tokens stop := by
  obtain ⟨tokens, stop, cut⟩ := exists_cut text.toList 0
  rw [tokenize_of_cut cut]
  exact ⟨stop, cut⟩

/-- The tokens of a text, and the character that ended them early with its offset, are those that
    cutting the text by longest matches gives, and there is one way to cut it. -/
theorem tokenize_is_longest_match (text : String) :
    (∃ tokens stop, Cut text.toList 0 tokens stop) ∧
      ∀ tokens stop, Cut text.toList 0 tokens stop ↔
        tokenize text =
          ⟨tokens, stop.map fun (offset, char) => ⟨offset, char, locate text offset⟩⟩ := by
  obtain ⟨tokens, stop, cut⟩ := exists_cut text.toList 0
  refine ⟨⟨tokens, stop, cut⟩, ?_⟩
  intro tokens' stop'
  constructor
  · exact tokenize_of_cut
  · intro same
    rw [tokenize_of_cut cut, TokenList.mk.injEq] at same
    obtain ⟨rfl, faults_eq⟩ := same
    have inject : Function.Injective fun (place : Nat × Char) =>
        (⟨place.1, place.2, locate text place.1⟩ : InvalidCharacter) := by
      rintro ⟨offset, char⟩ ⟨offset', char'⟩ same
      cases same
      rfl
    rw [← Option.map_injective inject faults_eq]
    exact cut

/-- Overlapping spellings, a keyword with a digit behind it, and a keyword that breaks off. -/
example : (tokenize "<=>[T1]Fora").tokens.map Token.kind = [.biconditional, .opening, .letter,
    .closing, .falsum, .letter, .letter, .letter] := by
  decide +kernel

/-! ### Names among the tokens -/

/-- A letter that is the longest match is a name: a keyword would have been declared before. -/
theorem Longest.isName {text value : List Char} (longest : Longest text value .letter) :
    IsName (String.ofList value) where
  spelled := by
    rw [String.toList_ofList]
    exact longest.spells
  noKeyword := by
    have declared : ∀ word ∈ ["T", "F", "A", "E"], ∃ keyword ∈ keywords, keyword.1 = word ∧
        Kind.all.idxOf keyword.2 < Kind.all.idxOf .letter := by
      decide
    intro isKeyword
    obtain ⟨⟨word, kind⟩, member, rfl, before⟩ := declared _ isKeyword
    have spells := spells_of_mem_keywords member
    rw [String.toList_ofList] at spells
    exact absurd (longest.first kind value longest.begins spells before) (Nat.lt_irrefl _)

/-- The letter of an agent is a name too, which is declared before. -/
theorem Longest.ne_agent {text value : List Char} {kind : Kind}
    (longest : Longest text value kind) : kind ≠ .agent := by
  rintro rfl
  obtain ⟨c, isAgent, rfl⟩ := longest.spells
  have spells : Kind.letter.Spells [c] := ⟨c, [], rfl, isAlpha_of_mem_agents isAgent, nofun⟩
  have before : Kind.letter.DeclaredBefore .agent := by
    unfold Kind.DeclaredBefore
    decide
  exact absurd (longest.first .letter [c] longest.begins spells before) (Nat.lt_irrefl _)

/-- Every token is a longest match somewhere. -/
theorem Cut.exists_longest {text : List Char} {offset : Nat} {tokens : List Token}
    {stop : Option (Nat × Char)} (cut : Cut text offset tokens stop) {token : Token}
    (member : token ∈ tokens) :
    ∃ text value, Longest text value token.kind ∧ token.value = String.ofList value := by
  induction cut with
  | finished | invalid => cases member
  | blank blank cut ih => exact ih member
  | token longest cut ih =>
      rcases List.mem_cons.1 member with rfl | inRest
      · exact ⟨_, _, longest, rfl⟩
      · exact ih inRest

theorem isName_of_mem_tokenize {text : String} {token : Token}
    (member : token ∈ (tokenize text).tokens) (isLetter : token.kind = .letter) :
    IsName token.value := by
  obtain ⟨stop, cut⟩ := cut_tokenize text
  obtain ⟨text', value, longest, value_eq⟩ := cut.exists_longest member
  rw [isLetter] at longest
  rw [value_eq]
  exact longest.isName

theorem kind_ne_agent_of_mem_tokenize {text : String} {token : Token}
    (member : token ∈ (tokenize text).tokens) : token.kind ≠ .agent := by
  obtain ⟨stop, cut⟩ := cut_tokenize text
  obtain ⟨text', value, longest, -⟩ := cut.exists_longest member
  exact longest.ne_agent

end ModalLanguage
