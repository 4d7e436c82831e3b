/-
Module: ModalLanguage.Proofs.Streams
Purpose: The streams of one tokenizer do not disturb each other. The scanners stand in one store,
  and what keeps them apart is an invariant (`Tokenizer.Holds`): no two streams read at the same
  place, and what a stream still answers is what a stream of its own would still answer. A question
  to one stream takes one answer off that stream and leaves the others as they were
  (`Tokenizer.Holds.advance`), so in any order each stream answers the tokens of its text, then what
  ended them, and then the end again and again.
Main exports: TokenList.answerAt, LazyStream.Stands, Tokenizer.Holds, Tokenizer.Holds.advance,
  Tokenizer.Holds.run, Tokenizer.streams_do_not_disturb
-/
import ModalLanguage.Proofs.Demand
import ModalLanguage.Tokenizer

namespace ModalLanguage

/-! ### One stream alone -/

/-- What a stream answers when it is asked after a number of answers: the tokens, then the character
    that ended them early, if one did, and then the end. -/
def TokenList.answerAt (list : TokenList) (place : Nat) : Stream.Answer :=
  list.answers[place]?.getD .finished

namespace Stream

/-- A stream that has nothing left. -/
def Spent (s : Stream) : Prop := s.rest = []

/-- A stream that has nothing left answers the end, and stays as it is. -/
theorem Spent.next_eq {s : Stream} (spent : s.Spent) : s.next = (.finished, s) := by
  obtain ⟨text, rest, offset⟩ := s
  cases spent
  rfl

theorem Spent.answerAt {s : Stream} (spent : s.Spent) (place : Nat) :
    s.remaining.answerAt place = .finished := by
  rw [remaining_eq, spent.next_eq]
  cases place with
  | zero | succ => rfl

/-- Only a token leaves something to be answered. -/
theorem spent_or_token (s : Stream) : s.next.2.Spent ∨ ∃ token, s.next.1 = .token token := by
  unfold next
  cases readToken s.rest s.offset with
  | token token rest => exact .inr ⟨token, rfl⟩
  | invalid | finished => exact .inl rfl

/-- The next answer of a stream is the first of those that remain. -/
theorem answerAt_zero (s : Stream) : s.remaining.answerAt 0 = s.next.1 := by
  rw [remaining_eq]
  obtain ⟨answer, later⟩ := s.next
  cases answer with
  | token | invalid | finished => rfl

/-- The answers behind it are those of the stream that was advanced. -/
theorem answerAt_succ (s : Stream) (place : Nat) :
    s.remaining.answerAt (place + 1) = s.next.2.remaining.answerAt place := by
  have spent := s.spent_or_token
  rw [remaining_eq]
  generalize s.next = advanced at spent ⊢
  obtain ⟨answer, later⟩ := advanced
  cases answer with
  | token token => rfl
  | invalid | finished =>
      rcases spent with spent | ⟨token, isToken⟩
      · exact (spent.answerAt place).symm
      · cases isToken

end Stream

/-! ### The store of scanners -/

/-- A stream of a tokenizer stands for a stream of its own that has answered as much. -/
inductive LazyStream.Stands (scanners : List Stream) : LazyStream → Stream → Prop where
  | untouched (text : String) : Stands scanners (.untouched text) (.ofText text)
  | reading {place : Nat} {s : Stream} (there : scanners[place]? = some s) :
      Stands scanners (.reading place) s
  | ended {s : Stream} (spent : s.Spent) : Stands scanners .ended s

namespace LazyStream.Stands

variable {scanners : List Stream} {l : LazyStream} {s : Stream}

/-- A new scanner disturbs no stream. -/
theorem append (stands : l.Stands scanners s) (more : List Stream) :
    l.Stands (scanners ++ more) s := by
  cases stands with
  | untouched text => exact .untouched text
  | reading there =>
      apply Stands.reading
      rw [List.getElem?_append_left (List.getElem?_eq_some_iff.1 there).1]
      exact there
  | ended spent => exact .ended spent

/-- A scanner that moves disturbs no stream that reads elsewhere. -/
theorem set (stands : l.Stands scanners s) {place : Nat} (elsewhere : l ≠ .reading place)
    (moved : Stream) : l.Stands (scanners.set place moved) s := by
  cases stands with
  | untouched text => exact .untouched text
  | @reading place' _ there =>
      have apart : place ≠ place' := by
        rintro rfl
        exact elsewhere rfl
      apply Stands.reading
      rw [List.getElem?_set_ne apart]
      exact there
  | ended spent => exact .ended spent

end LazyStream.Stands

/-- What a stream is behind an answer stands for the stream that was advanced. -/
theorem LazyStream.stands_behind {scanners : List Stream} {place : Nat} {s : Stream}
    (there : scanners[place]? = some s.next.2) :
    (LazyStream.behind place s.next.1).Stands scanners s.next.2 := by
  have spent := s.spent_or_token
  generalize s.next = advanced at spent there ⊢
  obtain ⟨answer, later⟩ := advanced
  cases answer with
  | token => exact .reading there
  | invalid | finished =>
      rcases spent with spent | ⟨token, isToken⟩
      · exact .ended spent
      · cases isToken

theorem LazyStream.eq_of_behind_eq_reading {place place' : Nat} {answer : Stream.Answer}
    (reads : LazyStream.behind place answer = .reading place') : place = place' := by
  cases answer with
  | token => exact LazyStream.reading.inj reads
  | invalid | finished => cases reads

namespace Tokenizer

/-- The invariant of a tokenizer: its streams stand for streams of their own, and no two of them read
    at the same place. -/
structure Holds (t : Tokenizer) (streams : List Stream) : Prop where
  length_eq : t.streams.length = streams.length
  stands : ∀ {i : Nat} {l : LazyStream} {s : Stream},
    t.streams[i]? = some l → streams[i]? = some s → l.Stands t.scanners s
  apart : ∀ {i j place : Nat},
    t.streams[i]? = some (.reading place) → t.streams[j]? = some (.reading place) → i = j

/-- The invariant holds of a tokenizer that was asked nothing. -/
theorem holds_ofTexts (level : Level) (texts : List String) :
    (ofTexts level texts).Holds (texts.map .ofText) where
  length_eq := by simp only [ofTexts, List.length_map]
  stands := by
    intro i l s here there
    simp only [ofTexts, List.getElem?_map, Option.map_eq_some_iff] at here there
    obtain ⟨text, at_, rfl⟩ := here
    obtain ⟨text', at_', rfl⟩ := there
    cases at_.symm.trans at_'
    exact .untouched text
  apart := by
    intro i j place here
    simp [ofTexts] at here

/-- What is read at a place of a list that was set there is what it was set to. -/
theorem eq_of_getElem?_set {α : Type} {xs : List α} {i : Nat} {x y : α}
    (there : (xs.set i x)[i]? = some y) : x = y := by
  have inside := (List.getElem?_eq_some_iff.1 there).1
  rw [List.length_set] at inside
  rw [List.getElem?_set_self inside] at there
  exact Option.some.inj there

section Step

variable {t : Tokenizer} {streams : List Stream} {i place : Nat} {s : Stream}

/-- One stream and the store are changed. The invariant is kept when the others still stand for what
    they stood for, and when none of them reads where the changed stream reads. -/
theorem Holds.replace (holds : t.Holds streams) {l : LazyStream} {scanners : List Stream}
    (own : l.Stands scanners s)
    (others : ∀ {j : Nat} {other : LazyStream} {r : Stream}, i ≠ j → t.streams[j]? = some other →
      other.Stands t.scanners r → other.Stands scanners r)
    (alone : ∀ {j place : Nat}, l = .reading place → t.streams[j]? = some (.reading place) →
      i = j) :
    Holds { t with scanners, streams := t.streams.set i l } (streams.set i s) where
  length_eq := by
    rw [List.length_set, List.length_set]
    exact holds.length_eq
  stands := by
    intro j other r here there
    by_cases same : i = j
    · subst same
      cases eq_of_getElem?_set here
      cases eq_of_getElem?_set there
      exact own
    · rw [List.getElem?_set_ne same] at here there
      exact others same here (holds.stands here there)
  apart := by
    intro j k place here there
    by_cases left : i = j
    · by_cases right : i = k
      · exact left.symm.trans right
      · subst left
        rw [List.getElem?_set_ne right] at there
        exact alone (eq_of_getElem?_set here) there
    · rw [List.getElem?_set_ne left] at here
      by_cases right : i = k
      · subst right
        exact (alone (eq_of_getElem?_set there) here).symm
      · rw [List.getElem?_set_ne right] at there
        exact holds.apart here there

/-- A place where a stream reads is in the store. -/
theorem Holds.inside (holds : t.Holds streams)
    (here : t.streams[i]? = some (.reading place)) : place < t.scanners.length := by
  have inside := (List.getElem?_eq_some_iff.1 here).1
  rw [holds.length_eq] at inside
  cases holds.stands here (List.getElem?_eq_getElem inside) with
  | reading there => exact (List.getElem?_eq_some_iff.1 there).1

/-- A stream that gets a scanner at the start of its text still stands for the same stream. -/
theorem Holds.opened (holds : t.Holds streams) (text : String) :
    (t.opened i text).Holds (streams.set i (.ofText text)) := by
  apply holds.replace
  · apply LazyStream.Stands.reading
    exact List.getElem?_concat_length
  · intro j other r _ _ stands
    exact stands.append _
  · intro j place isNew there
    cases isNew
    exact absurd (holds.inside there) (Nat.lt_irrefl _)

/-- Reading a token at the scanner of a stream takes one answer off that stream alone. -/
theorem Holds.pull (holds : t.Holds streams) (here : t.streams[i]? = some (.reading place))
    (there : streams[i]? = some s) :
    ∃ logged later, t.pull i place = some (⟨i, s.next.1, logged⟩, later) ∧
      later.Holds (streams.set i s.next.2) := by
  have scanner_there : t.scanners[place]? = some s := by
    cases holds.stands here there with
    | reading scanner_there => exact scanner_there
  refine ⟨_, _, by rw [Tokenizer.pull, scanner_there]; rfl, ?_⟩
  apply holds.replace
  · apply LazyStream.stands_behind
    exact List.getElem?_set_self (holds.inside here)
  · intro j other r apart otherwise stands
    apply stands.set
    rintro rfl
    exact apart (holds.apart here otherwise)
  · intro j place' reads otherwise
    rw [← LazyStream.eq_of_behind_eq_reading reads] at otherwise
    exact holds.apart here otherwise

/-- A question to a stream takes one answer off that stream alone. -/
theorem Holds.advance (holds : t.Holds streams) (there : streams[i]? = some s) :
    ∃ logged later, t.advance i = some (⟨i, s.next.1, logged⟩, later) ∧
      later.Holds (streams.set i s.next.2) := by
  have inside := (List.getElem?_eq_some_iff.1 there).1
  rw [← holds.length_eq] at inside
  have here := List.getElem?_eq_getElem inside
  generalize t.streams[i] = l at here
  unfold Tokenizer.advance
  rw [here]
  cases holds.stands here there with
  | untouched text =>
      have opened : (t.opened i text).streams[i]? = some (.reading t.scanners.length) :=
        List.getElem?_set_self inside
      have start : (streams.set i (.ofText text))[i]? = some (.ofText text) :=
        List.getElem?_set_self (List.getElem?_eq_some_iff.1 there).1
      have pulled := (holds.opened text).pull opened start
      rw [List.set_set] at pulled
      exact pulled
  | reading scanner_there => exact holds.pull here there
  | ended spent =>
      obtain ⟨_, rfl⟩ := List.getElem?_eq_some_iff.1 there
      rw [spent.next_eq, List.set_getElem_self]
      exact ⟨"", t, rfl, holds⟩

/-- A number without a stream is passed over. -/
theorem Holds.advance_eq_none (holds : t.Holds streams) (nowhere : streams[i]? = none) :
    t.advance i = none := by
  rw [List.getElem?_eq_none_iff, ← holds.length_eq, ← List.getElem?_eq_none_iff] at nowhere
  rw [Tokenizer.advance, nowhere]

end Step

section Run

variable {t : Tokenizer} {streams : List Stream}

/-- The answers of a tokenizer are those of streams of their own that are advanced in the same
    order. -/
theorem Holds.run (holds : t.Holds streams) (order : List Nat) :
    (t.run order).map Advance.answer = Stream.interleave streams order := by
  induction order generalizing t streams with
  | nil => rfl
  | cons i order ih =>
      rw [Tokenizer.run, Stream.interleave]
      cases there : streams[i]? with
      | none =>
          rw [holds.advance_eq_none there]
          exact ih holds
      | some s =>
          obtain ⟨logged, later, advanced, holds_later⟩ := holds.advance there
          rw [advanced, List.map_cons, ih holds_later]

/-- Each stream answers in the order of its own answers, whenever it is asked. -/
theorem Holds.answersOf_run (holds : t.Holds streams) (order : List Nat) {i : Nat} {s : Stream}
    (there : streams[i]? = some s) :
    answersOf i (t.run order) = (List.range (order.count i)).map s.remaining.answerAt := by
  induction order generalizing t streams s with
  | nil => rfl
  | cons j order ih =>
      rw [Tokenizer.run]
      cases other : streams[j]? with
      | none =>
          have apart : j ≠ i := by
            rintro rfl
            cases other.symm.trans there
          rw [holds.advance_eq_none other, List.count_cons_of_ne apart]
          exact ih holds there
      | some r =>
          obtain ⟨logged, later, advanced, holds_later⟩ := holds.advance other
          rw [advanced]
          by_cases same : j = i
          · subst same
            cases other.symm.trans there
            have inside := (List.getElem?_eq_some_iff.1 there).1
            have behind := ih holds_later (List.getElem?_set_self inside)
            have shifted : s.remaining.answerAt ∘ Nat.succ = s.next.2.remaining.answerAt :=
              funext s.answerAt_succ
            rw [answersOf_cons_self, behind, List.count_cons_self, List.range_succ_eq_map,
              List.map_cons, List.map_map, s.answerAt_zero, shifted]
          · have behind := ih holds_later ((List.getElem?_set_ne same).trans there)
            rw [answersOf_cons_of_ne same, behind, List.count_cons_of_ne same]

end Run

/-- The streams of one tokenizer do not disturb each other. They are advanced in any order, as often
    as one likes. What each stream answers, in order, are the tokens of its text, then the character
    that ended them early, if one did, and then the end each time; and all answers together are those
    of streams of their own, advanced in that order. -/
theorem streams_do_not_disturb (level : Level) (texts : List String) (order : List Nat) :
    (∀ i : Fin texts.length,
      answersOf i ((ofTexts level texts).run order) =
        (List.range (order.count i.val)).map (tokenize texts[i]).answerAt) ∧
      ((ofTexts level texts).run order).map Advance.answer =
        Stream.interleave (texts.map .ofText) order := by
  have holds := holds_ofTexts level texts
  refine ⟨?_, holds.run order⟩
  intro i
  have there : (texts.map Stream.ofText)[i.val]? = some (.ofText texts[i]) := by
    rw [List.getElem?_map, List.getElem?_eq_getElem i.isLt]
    rfl
  exact holds.answersOf_run order there

end Tokenizer

end ModalLanguage
