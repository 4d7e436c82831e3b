/-
Module: ModalLanguage.Tokenizer
Purpose: A tokenizer whose token streams are advanced by turns. A stream does nothing before it is
  asked for its first token; then it gets a scanner of its own, set to the start of its text, and
  each further question reads one token there. All scanners stand in one store, and a stream knows
  the place of its own. A token is logged when it is answered. An invalid character and the end of
  the text end a stream for good.
Main exports: LazyStream, Tokenizer, Tokenizer.ofTexts, Tokenizer.advance, Advance, Tokenizer.run,
  answersOf
-/
import ModalLanguage.Parser.Trace

namespace ModalLanguage

/-- How far a stream of tokens has come: nothing was asked of it, it reads at the scanner of a place,
    or it has ended. -/
inductive LazyStream where
  | untouched (text : String)
  | reading (place : Nat)
  | ended
deriving DecidableEq, Repr

/-- The streams of a tokenizer and the store of their scanners. -/
structure Tokenizer where
  level : Level
  scanners : List Stream
  streams : List LazyStream

/-- What came of a question: the number of the stream that was asked, its answer, and the text that
    was logged meanwhile. -/
structure Advance where
  stream : Nat
  answer : Stream.Answer
  logged : String
deriving DecidableEq, Repr

/-- What is logged of an answer. -/
def Stream.Answer.events : Stream.Answer → List Event
  | token t => [t.event]
  | invalid _ => []
  | finished => []

/-- What a stream is behind an answer that was read at the scanner of a place. -/
def LazyStream.behind (place : Nat) : Stream.Answer → LazyStream
  | .token _ => .reading place
  | .invalid _ => .ended
  | .finished => .ended

namespace Tokenizer

/-- A tokenizer with a stream for each of some texts. -/
def ofTexts (level : Level) (texts : List String) : Tokenizer := ⟨level, [], texts.map .untouched⟩

/-- Give a stream a scanner of its own, at the start of a text. -/
def opened (t : Tokenizer) (i : Nat) (text : String) : Tokenizer :=
  { t with
    scanners := t.scanners ++ [.ofText text]
    streams := t.streams.set i (.reading t.scanners.length) }

/-- Read a token for a stream at the scanner of a place. -/
def pull (t : Tokenizer) (i place : Nat) : Option (Advance × Tokenizer) :=
  t.scanners[place]?.map fun scanner =>
    let (answer, later) := scanner.next
    (⟨i, answer, writeEvents t.level answer.events⟩,
      { t with
        scanners := t.scanners.set place later
        streams := t.streams.set i (.behind place answer) })

/-- Ask a stream for its next token. -/
def advance (t : Tokenizer) (i : Nat) : Option (Advance × Tokenizer) :=
  match t.streams[i]? with
  | some (.untouched text) => (t.opened i text).pull i t.scanners.length
  | some (.reading place) => t.pull i place
  | some .ended => some (⟨i, .finished, ""⟩, t)
  | none => none

/-- Ask streams in an order. A number without a stream is passed over. -/
def run (t : Tokenizer) : List Nat → List Advance
  | [] => []
  | i :: order =>
    match t.advance i with
    | some (advanced, later) => advanced :: later.run order
    | none => t.run order

end Tokenizer

/-- The answers of one stream, in order. -/
def answersOf (i : Nat) (advances : List Advance) : List Stream.Answer :=
  (advances.filter fun advanced => advanced.stream = i).map Advance.answer

theorem answersOf_cons_self (i : Nat) (answer : Stream.Answer) (logged : String)
    (advances : List Advance) :
    answersOf i (⟨i, answer, logged⟩ :: advances) = answer :: answersOf i advances := by
  simp [answersOf]

theorem answersOf_cons_of_ne {i j : Nat} (apart : j ≠ i) (answer : Stream.Answer)
    (logged : String) (advances : List Advance) :
    answersOf i (⟨j, answer, logged⟩ :: advances) = answersOf i advances := by
  simp [answersOf, apart]

end ModalLanguage
