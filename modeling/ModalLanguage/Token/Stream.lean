/-
Module: ModalLanguage.Token.Stream
Purpose: Cutting a text into tokens. Spaces, tabs and newlines are skipped, every other character
  has to begin a token, and the first one that does not ends the tokens with an error. The same
  reading step serves the token list of a whole text and a stream that is advanced on demand.
Main exports: Reading, readToken, TokenList, tokenize, Stream, Stream.next, Stream.interleave
-/
import ModalLanguage.Token.Basic
import ModalLanguage.Token.Lexeme

namespace ModalLanguage

/-- The characters that stand between tokens. -/
def isBlank (c : Char) : Bool := c = ' ' || c = '\t' || c = '\n'

/-- What reading finds: a token and the text behind it, a character that begins no token, or the end
    of the text. -/
inductive Reading where
  | token (token : Token) (rest : List Char)
  | invalid (offset : Nat) (char : Char)
  | finished
deriving DecidableEq, Repr

/-- Skip blanks and read one token. The offset is that of the first character of the text given. -/
def readToken : List Char → Nat → Reading
  | [], _ => .finished
  | c :: cs, offset =>
    if isBlank c then readToken cs (offset + 1)
    else
      match lexeme? (c :: cs) with
      | some (value, kind) =>
        .token ⟨kind, String.ofList value, offset⟩ ((c :: cs).drop value.length)
      | none => .invalid offset c

/-- The offset behind a token. -/
def Token.endOffset (t : Token) : Nat := t.offset + t.value.length

/-- Reading a token uses up some of the text. -/
theorem readToken_length_lt {text rest : List Char} {offset : Nat} {token : Token}
    (h : readToken text offset = .token token rest) : rest.length < text.length := by
  induction text generalizing offset with
  | nil => cases h
  | cons c cs ih =>
    unfold readToken at h
    split at h
    · exact Nat.lt_succ_of_lt (ih h)
    · split at h
      · rename_i value kind found
        cases h
        have positive := List.length_pos_iff.2 (lexeme?_ne_nil found)
        simp only [List.length_drop, List.length_cons]
        omega
      · cases h

/-- The tokens of a text, in order, and the character that ended them early, if one did. -/
structure TokenList where
  tokens : List Token
  fault : Option InvalidCharacter
deriving DecidableEq, Repr

/-- Read tokens to the end of the text. The tokens read before are given last first. -/
def readTokens (found : List Token) (text : List Char) (offset : Nat) :
    List Token × Option (Nat × Char) :=
  match _reading : readToken text offset with
  | .token token rest => readTokens (token :: found) rest token.endOffset
  | .invalid offset char => (found.reverse, some (offset, char))
  | .finished => (found.reverse, none)
termination_by text.length
decreasing_by exact readToken_length_lt _reading

/-- Cut a text into tokens. -/
def tokenize (text : String) : TokenList :=
  let (tokens, stop) := readTokens [] text.toList 0
  ⟨tokens, stop.map fun (offset, char) => ⟨offset, char, locate text offset⟩⟩

/-- A text whose tokens are read one at a time. -/
structure Stream where
  text : String
  rest : List Char
  offset : Nat

/-- What advancing a stream answers. -/
inductive Stream.Answer where
  | token (token : Token)
  | invalid (fault : InvalidCharacter)
  | finished
deriving DecidableEq, Repr

namespace Stream

/-- The stream of a whole text. -/
def ofText (text : String) : Stream := ⟨text, text.toList, 0⟩

/-- Read the next token. An invalid character is answered once, and nothing behind it is read. -/
def next (s : Stream) : Answer × Stream :=
  match readToken s.rest s.offset with
  | .token token rest => (.token token, { s with rest, offset := token.endOffset })
  | .invalid offset char => (.invalid ⟨offset, char, locate s.text offset⟩, { s with rest := [] })
  | .finished => (.finished, { s with rest := [] })

/-- Advance the streams in the given order and collect the answers. An index without a stream is
    passed over. -/
def interleave (streams : List Stream) : List Nat → List Answer
  | [] => []
  | i :: order =>
    match streams[i]? with
    | some s => s.next.1 :: interleave (streams.set i s.next.2) order
    | none => interleave streams order

end Stream

end ModalLanguage
