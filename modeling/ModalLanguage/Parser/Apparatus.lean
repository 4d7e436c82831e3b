/-
Module: ModalLanguage.Parser.Apparatus
Purpose: The scanners and machines with which texts are parsed and cut into tokens. All of them
  stand in one store and are known by their places. A call takes copies of a scanner and of a
  machine, sets the one to the start of its text and lets the other forget what it has read; then
  tokens are pulled at the one and worked off at the other, each token logged when it is pulled. An
  error ends a call in the middle, and its copies stay as they are.
Main exports: Apparatus, Apparatus.pull, Apparatus.work, Called, Apparatus.read, Apparatus.parse,
  Apparatus.drain, Apparatus.cut
-/
import ModalLanguage.Automaton.Machine
import ModalLanguage.Parser.Demand
import ModalLanguage.Parser.Trace

namespace ModalLanguage

open Automaton

/-- The scanners and machines that there are. -/
structure Apparatus where
  scanners : Array Stream
  machines : Array Machine

/-- What a call comes to: its outcome, what was logged, and the apparatus behind it. -/
structure Called (α : Type) where
  outcome : α
  logged : String
  behind : Apparatus

namespace Apparatus

/-! ### One scanner, one machine -/

/-- The scanner of a place. -/
def scanner (a : Apparatus) (place : Nat) : Stream := a.scanners[place]?.getD (.ofText "")

/-- The machine of a place. -/
def machine (a : Apparatus) (place : Nat) : Machine :=
  a.machines[place]?.getD (.ofLimit .standard)

/-- Change the scanner of a place. -/
def setScanner (a : Apparatus) (place : Nat) (scanner : Stream) : Apparatus :=
  { a with scanners := a.scanners.setIfInBounds place scanner }

/-- Change the machine of a place. -/
def setMachine (a : Apparatus) (place : Nat) (machine : Machine) : Apparatus :=
  { a with machines := a.machines.setIfInBounds place machine }

/-- Copy a scanner. The place of the copy is behind those of all scanners. -/
def copyScanner (a : Apparatus) (place : Nat) : Apparatus :=
  { a with scanners := a.scanners.push (a.scanner place) }

/-- Copy a machine. The place of the copy is behind those of all machines. -/
def copyMachine (a : Apparatus) (place : Nat) : Apparatus :=
  { a with machines := a.machines.push (a.machine place) }

/-- Set a scanner to the start of a text. -/
def input (a : Apparatus) (place : Nat) (text : String) : Apparatus :=
  a.setScanner place (.ofText text)

/-- Let a machine forget what it has read. -/
def restart (a : Apparatus) (place : Nat) : Apparatus :=
  a.setMachine place (a.machine place).restart

/-- Ask a scanner for its next token. -/
def pull (a : Apparatus) (place : Nat) : Stream.Answer × Apparatus :=
  let (answer, later) := (a.scanner place).next
  (answer, a.setScanner place later)

/-- Work off a token, or the end, at a machine. -/
def work (a : Apparatus) (place : Nat) (found : Option Token) : Verdict × Apparatus :=
  let (verdict, machine) := (a.machine place).work found
  (verdict, a.setMachine place machine)

theorem scanner_setScanner {a : Apparatus} {place : Nat} (inside : place < a.scanners.size)
    (scanner : Stream) : (a.setScanner place scanner).scanner place = scanner := by
  simp [setScanner, Apparatus.scanner, inside]

/-- A scanner that answers with a token has less text left. -/
theorem rest_length_lt_of_pull {a pulled : Apparatus} {place : Nat} {token : Token}
    (answered : a.pull place = (.token token, pulled)) :
    (pulled.scanner place).rest.length < (a.scanner place).rest.length := by
  obtain ⟨isToken, rfl⟩ := Prod.mk.inj answered
  by_cases inside : place < a.scanners.size
  · rw [scanner_setScanner inside]
    exact Stream.rest_length_lt_of_next (Prod.ext isToken rfl)
  · -- where no scanner stands there is nothing to read
    have noScanner : a.scanner place = .ofText "" := by
      simp [scanner, inside]
    rw [noScanner] at isToken
    cases isToken

/-! ### Calls -/

/-- The error of a failure, with the text of the scanner and the limit of the machine. -/
def report (a : Apparatus) (scanner machine : Nat) (failure : Failure) : Error :=
  .parse (failure.report (a.scanner scanner).text (a.machine machine).limit)

/-- Pull tokens at a scanner and work them off at a machine, until one cannot be read or there is
    none. -/
def read (a : Apparatus) (level : Level) (scanner machine : Nat) (logged : String) :
    Called (Except Error Formula) :=
  -- when the token turns out to be refused, reductions may already have been made for it
  let before := states (a.machine machine).stack
  match _pulled : a.pull scanner with
  | (.token token, pulled) =>
    let logged := logged ++ token.event.write level
    match _worked : pulled.work machine (some token) with
    | (.shifted _, worked) => worked.read level scanner machine logged
    | (verdict, worked) =>
      ⟨.error (worked.report scanner machine (verdict.failure (some token) before)), logged, worked⟩
  | (.invalid fault, pulled) => ⟨.error (.invalid fault), logged, pulled⟩
  | (.finished, pulled) =>
    match pulled.work machine none with
    | (.accepted f, worked) => ⟨.ok f, logged, worked⟩
    | (verdict, worked) =>
      ⟨.error (worked.report scanner machine (verdict.failure none before)), logged, worked⟩
termination_by (a.scanner scanner).rest.length
decreasing_by
  obtain ⟨-, rfl⟩ := Prod.mk.inj _worked
  have shorter := rest_length_lt_of_pull _pulled
  exact shorter

section Reading

variable {a pulled : Apparatus} {level : Level} {scanner machine : Nat} {logged : String}

/-- A token is logged and worked off. -/
theorem read_of_token {token : Token} (answered : a.pull scanner = (.token token, pulled)) :
    a.read level scanner machine logged =
      match pulled.work machine (some token) with
      | (.shifted _, worked) =>
        worked.read level scanner machine (logged ++ token.event.write level)
      | (verdict, worked) =>
        ⟨.error (worked.report scanner machine
            (verdict.failure (some token) (states (a.machine machine).stack))),
          logged ++ token.event.write level, worked⟩ := by
  rw [read]
  split <;> rename_i pulled' <;> rw [answered] at pulled' <;> cases pulled'
  split <;> rename_i worked <;> simp only [worked]

/-- A character that begins no token ends the call. -/
theorem read_of_invalid {fault : InvalidCharacter}
    (answered : a.pull scanner = (.invalid fault, pulled)) :
    a.read level scanner machine logged = ⟨.error (.invalid fault), logged, pulled⟩ := by
  rw [read]
  split <;> rename_i pulled' <;> rw [answered] at pulled' <;> cases pulled'
  rfl

/-- The end is worked off like a token. -/
theorem read_of_finished (answered : a.pull scanner = (.finished, pulled)) :
    a.read level scanner machine logged =
      match pulled.work machine none with
      | (.accepted f, worked) => ⟨.ok f, logged, worked⟩
      | (verdict, worked) =>
        ⟨.error (worked.report scanner machine
            (verdict.failure none (states (a.machine machine).stack))), logged, worked⟩ := by
  rw [read]
  split <;> rename_i pulled' <;> rw [answered] at pulled' <;> cases pulled'
  rfl

end Reading

/-- Copies for a call: one of a scanner, at the start of a text, and one of a machine, which has
    read nothing. -/
def prepare (a : Apparatus) (scanner machine : Nat) (text : String) : Apparatus :=
  (((a.copyScanner scanner).input a.scanners.size text).copyMachine machine).restart
    a.machines.size

/-- Parse a text with copies of a scanner and of a machine. -/
def parse (a : Apparatus) (level : Level) (scanner machine : Nat) (text : String) :
    Called (Except Error Formula) :=
  let announced := writeEvents level [.debug s!"Parsing {quoted text}" []]
  let prepared := a.prepare scanner machine text
  let called := prepared.read level a.scanners.size a.machines.size announced
  { called with logged := called.logged ++ (Parser.endEvent text called.outcome).write level }

/-- Pull tokens at a scanner to the end. The tokens pulled before are given last first. -/
def drain (a : Apparatus) (level : Level) (scanner : Nat) (found : List Token) (logged : String) :
    Called TokenList :=
  match _pulled : a.pull scanner with
  | (.token token, pulled) =>
    pulled.drain level scanner (token :: found) (logged ++ token.event.write level)
  | (.invalid fault, pulled) => ⟨⟨found.reverse, some fault⟩, logged, pulled⟩
  | (.finished, pulled) => ⟨⟨found.reverse, none⟩, logged, pulled⟩
termination_by (a.scanner scanner).rest.length
decreasing_by exact rest_length_lt_of_pull _pulled

/-- Cut a text into tokens with a copy of a scanner. -/
def cut (a : Apparatus) (level : Level) (scanner : Nat) (text : String) : Called TokenList :=
  ((a.copyScanner scanner).input a.scanners.size text).drain level a.scanners.size [] ""

end Apparatus

end ModalLanguage
