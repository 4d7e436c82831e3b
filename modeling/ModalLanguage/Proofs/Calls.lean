/-
Module: ModalLanguage.Proofs.Calls
Purpose: What a call comes to. A machine that holds a configuration works off a token as the
  configuration takes it, and fails with the same failure (`Automaton.Holds.failure_of_step`). So
  tokens that are pulled at a scanner and worked off at a machine come to what a parse on demand
  comes to (`read_eq`), and a call to what the parse of its text comes to, whatever the scanner and
  the machine had been used for before they were copied (`parse_outcome`, `cut_outcome`). A call
  leaves all scanners and machines that there were as they were, also when it ends with an error
  (`parse_keeps`, `cut_keeps`).
Main exports: Retains, Apparatus.Keeps, Apparatus.parse_keeps, Apparatus.cut_keeps,
  Apparatus.read_eq, Apparatus.parse_outcome, Apparatus.parse_logged, Apparatus.cut_outcome,
  Apparatus.cut_logged
-/
import ModalLanguage.Parser.Apparatus
import ModalLanguage.Proofs.Demand
import ModalLanguage.Proofs.Expectation

namespace ModalLanguage

open Automaton

/-! ### Arrays that hold on to what they hold -/

/-- What is at a place of one array is at the same place of another. -/
structure Retains {α : Type} (old new : Array α) : Prop where
  getElem? : ∀ {place : Nat} {x : α}, old[place]? = some x → new[place]? = some x

namespace Retains

variable {α : Type} {old middle new : Array α}

theorem refl (old : Array α) : Retains old old := ⟨id⟩

theorem trans (first : Retains old middle) (second : Retains middle new) : Retains old new :=
  ⟨fun there => second.getElem? (first.getElem? there)⟩

/-- A place behind all old ones can be written to. -/
theorem setIfInBounds (retains : Retains old new) {place : Nat} (fresh : old.size ≤ place) (x : α) :
    Retains old (new.setIfInBounds place x) := by
  refine ⟨fun {before _} there => ?_⟩
  obtain ⟨inside, -⟩ := Array.getElem?_eq_some_iff.1 there
  have apart : place ≠ before := by omega
  rw [Array.getElem?_setIfInBounds_ne apart]
  exact retains.getElem? there

theorem push (retains : Retains old new) (x : α) : Retains old (new.push x) := by
  refine ⟨fun there => ?_⟩
  obtain ⟨inside, same⟩ := Array.getElem?_eq_some_iff.1 (retains.getElem? there)
  rw [Array.getElem?_push_lt inside, same]

end Retains

/-! ### A token that is not shifted -/

namespace Automaton

section Failures

variable {c : Configuration} {stack : List Cell} {tokens : List Token} {limit : Limit}
  {failure : Failure}

theorem Holds.expectedOn_eq (holds : Holds c stack) (reads : Reads c tokens) :
    expectedOn (states stack) = c.expected := by
  simp [expectedOn, Configuration.expected, holds.simulate_eq reads]

/-- A token that a configuration does not take is not shifted, for the same reason. -/
theorem Holds.failure_of_step (holds : Holds c stack) (reads : Reads c tokens) {token : Token}
    (failed : c.step limit token = .error failure) :
    (∀ stack', settle limit (some token) stack ≠ .shifted stack') ∧
      (settle limit (some token) stack).failure (some token) (states stack) = failure := by
  have agrees := holds.step limit token
  rw [failed] at agrees
  generalize settle limit (some token) stack = verdict at agrees ⊢
  cases agrees with
  | unknownAgent | tooDeep => exact ⟨nofun, rfl⟩
  | refused =>
      cases Configuration.step_error failed with
      | unexpected =>
          refine ⟨nofun, ?_⟩
          rw [Verdict.failure, holds.expectedOn_eq reads]
          exact nofun

/-- And so for the end. -/
theorem Holds.failure_of_finish (holds : Holds c stack) (reads : Reads c tokens)
    (failed : c.finish limit = .error failure) :
    (∀ f, settle limit none stack ≠ .accepted f) ∧
      (settle limit none stack).failure none (states stack) = failure := by
  have agrees := holds.finish limit
  rw [failed] at agrees
  generalize settle limit none stack = verdict at agrees ⊢
  cases agrees with
  | unknownAgent | tooDeep => exact ⟨nofun, rfl⟩
  | refused =>
      rcases Configuration.finish_error failed with ⟨isUnexpected, -⟩ | ⟨_, _, -, isTooDeep, -⟩
      · cases isUnexpected
        refine ⟨nofun, ?_⟩
        rw [Verdict.failure, holds.expectedOn_eq reads]
        exact nofun
      · cases isTooDeep

end Failures

end Automaton

namespace Apparatus

/-! ### What stays as it was -/

/-- All scanners and machines of an apparatus are also those of another one. -/
structure Keeps (a next : Apparatus) : Prop where
  scanners : Retains a.scanners next.scanners
  machines : Retains a.machines next.machines

namespace Keeps

variable {a middle next : Apparatus} {level : Level} {logged : String} {place : Nat}

theorem refl (a : Apparatus) : a.Keeps a := ⟨.refl _, .refl _⟩

theorem trans (first : a.Keeps middle) (second : middle.Keeps next) : a.Keeps next :=
  ⟨first.scanners.trans second.scanners, first.machines.trans second.machines⟩

/-- A scanner behind all old ones can be changed. -/
theorem setScanner (keeps : a.Keeps next) (fresh : a.scanners.size ≤ place) (scanner : Stream) :
    a.Keeps (next.setScanner place scanner) :=
  ⟨keeps.scanners.setIfInBounds fresh scanner, keeps.machines⟩

/-- A machine behind all old ones can be changed. -/
theorem setMachine (keeps : a.Keeps next) (fresh : a.machines.size ≤ place) (machine : Machine) :
    a.Keeps (next.setMachine place machine) :=
  ⟨keeps.scanners, keeps.machines.setIfInBounds fresh machine⟩

theorem copyScanner (keeps : a.Keeps next) (place : Nat) : a.Keeps (next.copyScanner place) :=
  ⟨keeps.scanners.push _, keeps.machines⟩

theorem copyMachine (keeps : a.Keeps next) (place : Nat) : a.Keeps (next.copyMachine place) :=
  ⟨keeps.scanners, keeps.machines.push _⟩

theorem pull {pulled : Apparatus} {answer : Stream.Answer} (keeps : a.Keeps next)
    (fresh : a.scanners.size ≤ place) (answered : next.pull place = (answer, pulled)) :
    a.Keeps pulled := by
  obtain ⟨-, rfl⟩ := Prod.mk.inj answered
  exact keeps.setScanner fresh _

theorem work {worked : Apparatus} {found : Option Token} {verdict : Verdict}
    (keeps : a.Keeps next) (fresh : a.machines.size ≤ place)
    (comesTo : next.work place found = (verdict, worked)) : a.Keeps worked := by
  obtain ⟨-, rfl⟩ := Prod.mk.inj comesTo
  exact keeps.setMachine fresh _

/-- Reading at a new scanner and a new machine leaves the old ones alone, however it ends. -/
theorem read {scanner machine : Nat} (keeps : a.Keeps next)
    (freshScanner : a.scanners.size ≤ scanner) (freshMachine : a.machines.size ≤ machine) :
    a.Keeps (next.read level scanner machine logged).behind := by
  fun_induction Apparatus.read next level scanner machine logged with
  | case1 next logged token pulled answered more stack worked shifted ih =>
      exact ih ((keeps.pull freshScanner answered).work freshMachine shifted)
  | case2 next logged before token pulled answered more verdict worked _ comesTo =>
      exact (keeps.pull freshScanner answered).work freshMachine comesTo
  | case3 next logged fault pulled answered => exact keeps.pull freshScanner answered
  | case4 next logged pulled answered f worked accepted =>
      exact (keeps.pull freshScanner answered).work freshMachine accepted
  | case5 next logged before pulled answered verdict worked _ comesTo =>
      exact (keeps.pull freshScanner answered).work freshMachine comesTo

theorem drain {scanner : Nat} {found : List Token} (keeps : a.Keeps next)
    (fresh : a.scanners.size ≤ scanner) :
    a.Keeps (next.drain level scanner found logged).behind := by
  fun_induction Apparatus.drain next level scanner found logged with
  | case1 next found logged token pulled answered ih => exact ih (keeps.pull fresh answered)
  | case2 next found logged fault pulled answered => exact keeps.pull fresh answered
  | case3 next found logged pulled answered => exact keeps.pull fresh answered

end Keeps

section Calls

variable (a : Apparatus) (level : Level) (scanner machine : Nat) (text : String)

theorem prepare_keeps : a.Keeps (a.prepare scanner machine text) :=
  ((((Keeps.refl a).copyScanner scanner).setScanner (Nat.le_refl _) _).copyMachine
    machine).setMachine (Nat.le_refl _) _

/-- A parse leaves every scanner and machine as it was, also when it fails. -/
theorem parse_keeps : a.Keeps (a.parse level scanner machine text).behind :=
  (a.prepare_keeps scanner machine text).read (Nat.le_refl _) (Nat.le_refl _)

/-- Cutting a text into tokens leaves them so, too. -/
theorem cut_keeps : a.Keeps (a.cut level scanner text).behind :=
  (((Keeps.refl a).copyScanner scanner).setScanner (Nat.le_refl _) _).drain (Nat.le_refl _)

end Calls

/-! ### One token of a call -/

section Steps

variable {a : Apparatus} {level : Level} {logged : String} {scanner machine : Nat}
  {reader later : Stream} {answer : Stream.Answer} {token : Token} {worker : Machine}
  (isReader : a.scanners[scanner]? = some reader)
  (isWorker : a.machines[machine]? = some worker)

include isReader in
theorem scanner_eq : a.scanner scanner = reader := by
  rw [Apparatus.scanner, isReader, Option.getD_some]

include isWorker in
theorem machine_eq : a.machine machine = worker := by
  rw [Apparatus.machine, isWorker, Option.getD_some]

include isReader in
theorem getElem?_setScanner (later : Stream) :
    (a.setScanner scanner later).scanners[scanner]? = some later := by
  obtain ⟨inside, -⟩ := Array.getElem?_eq_some_iff.1 isReader
  rw [setScanner, Array.getElem?_setIfInBounds_self_of_lt inside]

include isWorker in
theorem getElem?_setMachine (worker' : Machine) :
    (a.setMachine machine worker').machines[machine]? = some worker' := by
  obtain ⟨inside, -⟩ := Array.getElem?_eq_some_iff.1 isWorker
  rw [setMachine, Array.getElem?_setIfInBounds_self_of_lt inside]

include isReader in
theorem pull_eq (answered : reader.next = (answer, later)) :
    a.pull scanner = (answer, a.setScanner scanner later) := by
  rw [pull, scanner_eq isReader, answered]

include isWorker in
theorem work_eq (found : Option Token) :
    a.work machine found =
      (settle worker.limit found worker.stack,
        a.setMachine machine (worker.work found).2) := by
  rw [work, machine_eq isWorker, ← worker.work_fst]

include isReader isWorker

/-- However far scanner and machine have come, the error of a failure has the text that is read and
    the limit of the machine. -/
theorem report_eq (answered : reader.next = (answer, later)) (found : Option Token)
    (failure : Failure) :
    ((a.setScanner scanner later).setMachine machine (worker.work found).2).report scanner machine
        failure =
      .parse (failure.report reader.text worker.limit) := by
  let behind := (a.setScanner scanner later).setMachine machine (worker.work found).2
  have isLater : behind.scanner scanner = later := scanner_eq (getElem?_setScanner isReader later)
  have isWorked : behind.machine machine = (worker.work found).2 :=
    machine_eq (getElem?_setMachine (a := a.setScanner scanner later) isWorker _)
  rw [report, isLater, isWorked, Stream.text_of_next answered, worker.limit_work]

/-- A token that is shifted is logged, and the call goes on behind it. -/
theorem read_shifted {stack : List Cell} (answered : reader.next = (.token token, later))
    (shifted : settle worker.limit (some token) worker.stack = .shifted stack) :
    a.read level scanner machine logged =
      ((a.setScanner scanner later).setMachine machine { worker with stack }).read level scanner
        machine (logged ++ token.event.write level) := by
  have worked := work_eq (a := a.setScanner scanner later) isWorker (some token)
  rw [worker.work_of_shifted shifted, shifted] at worked
  rw [read_of_token (pull_eq isReader answered), worked]

/-- A token that is not shifted ends the call. -/
theorem read_stopped (answered : reader.next = (.token token, later))
    (stops : ∀ stack, settle worker.limit (some token) worker.stack ≠ .shifted stack) :
    (a.read level scanner machine logged).outcome =
        .error (.parse (((settle worker.limit (some token) worker.stack).failure (some token)
          (states worker.stack)).report reader.text worker.limit)) ∧
      (a.read level scanner machine logged).logged = logged ++ token.event.write level := by
  have worked := work_eq (a := a.setScanner scanner later) isWorker (some token)
  rw [read_of_token (pull_eq isReader answered), worked, machine_eq isWorker]
  split
  · rename_i isShifted
    exact absurd (congrArg Prod.fst isShifted) (stops _)
  · rename_i comesTo
    obtain ⟨rfl, rfl⟩ := Prod.mk.inj comesTo
    exact ⟨congrArg Except.error (report_eq isReader isWorker answered _ _), rfl⟩

/-- The end is accepted with a formula. -/
theorem read_accepted {f : Formula} (answered : reader.next = (.finished, later))
    (accepted : settle worker.limit none worker.stack = .accepted f) :
    (a.read level scanner machine logged).outcome = .ok f ∧
      (a.read level scanner machine logged).logged = logged := by
  have worked := work_eq (a := a.setScanner scanner later) isWorker none
  rw [accepted] at worked
  rw [read_of_finished (pull_eq isReader answered), worked]
  exact ⟨rfl, rfl⟩

/-- An end that is not accepted is an error. -/
theorem read_unaccepted (answered : reader.next = (.finished, later))
    (stops : ∀ f, settle worker.limit none worker.stack ≠ .accepted f) :
    (a.read level scanner machine logged).outcome =
        .error (.parse (((settle worker.limit none worker.stack).failure none
          (states worker.stack)).report reader.text worker.limit)) ∧
      (a.read level scanner machine logged).logged = logged := by
  have worked := work_eq (a := a.setScanner scanner later) isWorker none
  rw [read_of_finished (pull_eq isReader answered), worked, machine_eq isWorker]
  split
  · rename_i isAccepted
    exact absurd (congrArg Prod.fst isAccepted) (stops _)
  · rename_i comesTo
    obtain ⟨rfl, rfl⟩ := Prod.mk.inj comesTo
    exact ⟨congrArg Except.error (report_eq isReader isWorker answered _ _), rfl⟩

end Steps

/-! ### Whole calls -/

/-- The log behind some tokens. -/
def loggedTokens (level : Level) (logged : String) (tokens : List Token) : String :=
  tokens.foldl (fun written token => written ++ token.event.write level) logged

/-- A machine that holds a configuration reads what a parse on demand reads from there, and logs the
    tokens that are asked for. -/
theorem read_eq {a : Apparatus} {level : Level} {logged : String} {scanner machine : Nat}
    {p : Parser} {c : Configuration} {reader : Stream} {stack : List Cell} {tokens : List Token}
    (isReader : a.scanners[scanner]? = some reader)
    (isWorker : a.machines[machine]? = some ⟨p.limit, stack⟩) (holds : Holds c stack)
    (reads : Reads c tokens) :
    (a.read level scanner machine logged).outcome = (p.demandFrom c reader).outcome ∧
      (a.read level scanner machine logged).logged =
        loggedTokens level logged
          ((p.demandFrom c reader).answers.filterMap Stream.Answer.token?) := by
  fun_induction p.demandFrom c reader generalizing a stack tokens logged with
  | case1 c reader token later answered failure failed =>
      obtain ⟨stops, failure_eq⟩ := holds.failure_of_step reads failed
      obtain ⟨outcome_eq, logged_eq⟩ := read_stopped isReader isWorker answered stops
      rw [outcome_eq, logged_eq, failure_eq]
      exact ⟨rfl, rfl⟩
  | case2 c reader token later answered next taken others =>
      rename_i ih
      have agrees := holds.step p.limit token
      rw [taken] at agrees
      cases agrees with
      | passed shifts =>
          obtain ⟨stack', shifted, holds'⟩ := shifts
          rw [read_shifted isReader isWorker answered shifted]
          exact ih (getElem?_setScanner isReader later) (getElem?_setMachine isWorker _) holds'
            (reads.step taken)
  | case3 c reader fault later answered =>
      rw [read_of_invalid (pull_eq isReader answered)]
      exact ⟨rfl, rfl⟩
  | case4 c reader later answered =>
      cases finished : c.finish p.limit with
      | ok f =>
          have agrees := holds.finish p.limit
          rw [finished] at agrees
          cases agrees with
          | passed accepts => exact read_accepted isReader isWorker answered accepts
      | error failure =>
          obtain ⟨stops, failure_eq⟩ := holds.failure_of_finish reads finished
          obtain ⟨outcome_eq, logged_eq⟩ := read_unaccepted isReader isWorker answered stops
          rw [outcome_eq, logged_eq, failure_eq]
          exact ⟨rfl, rfl⟩

/-- Pulling to the end finds the tokens that a scanner has left. -/
theorem drain_eq {a : Apparatus} {level : Level} {logged : String} {scanner : Nat}
    {reader : Stream} {found : List Token} (isReader : a.scanners[scanner]? = some reader) :
    (a.drain level scanner found logged).outcome =
        ⟨found.reverse ++ reader.remaining.tokens, reader.remaining.fault⟩ ∧
      (a.drain level scanner found logged).logged =
        loggedTokens level logged reader.remaining.tokens := by
  obtain ⟨answer, later, next_eq⟩ : ∃ answer later, reader.next = (answer, later) := ⟨_, _, rfl⟩
  fun_induction Apparatus.drain a level scanner found logged
    generalizing reader answer later with
  | case1 a found logged token pulled answered ih =>
      rw [pull_eq isReader next_eq] at answered
      cases answered
      obtain ⟨outcome_eq, logged_eq⟩ :=
        ih (getElem?_setScanner isReader later) later.next.1 later.next.2 rfl
      rw [outcome_eq, logged_eq, reader.remaining_eq, next_eq, List.reverse_cons, List.append_assoc]
      exact ⟨rfl, rfl⟩
  | case2 a found logged fault pulled answered | case3 a found logged pulled answered =>
      rw [pull_eq isReader next_eq] at answered
      cases answered
      rw [reader.remaining_eq, next_eq, List.append_nil]
      exact ⟨rfl, rfl⟩

section Texts

variable (a : Apparatus) (level : Level) (scanner machine : Nat) (text : String)

/-- A copied scanner stands at the start of the text that it is set to. -/
theorem getElem?_input_copyScanner :
    ((a.copyScanner scanner).input a.scanners.size text).scanners[a.scanners.size]? =
      some (.ofText text) := by
  have copied : (a.copyScanner scanner).scanners[a.scanners.size]? = some (a.scanner scanner) :=
    Array.getElem?_push_size
  exact getElem?_setScanner copied (.ofText text)

/-- A copied machine has read nothing, and it has the limit of the machine that was copied. -/
theorem getElem?_machines_prepare :
    (a.prepare scanner machine text).machines[a.machines.size]? =
      some ⟨(a.machine machine).limit, []⟩ := by
  let opened := (a.copyScanner scanner).input a.scanners.size text
  have copied : (opened.copyMachine machine).machines[a.machines.size]? =
      some (a.machine machine) := Array.getElem?_push_size
  have same : (opened.copyMachine machine).machine a.machines.size = a.machine machine :=
    machine_eq copied
  rw [prepare, restart, same]
  exact getElem?_setMachine copied _

/-- A text is cut into its tokens, whatever the scanner was used for. -/
theorem cut_outcome : (a.cut level scanner text).outcome = tokenize text :=
  (drain_eq (a.getElem?_input_copyScanner scanner text)).1

/-- Each token is logged. -/
theorem cut_logged :
    (a.cut level scanner text).logged = writeEvents level (tokenEvents text) := by
  have logged_eq : (a.cut level scanner text).logged =
      loggedTokens level "" (Stream.ofText text).remaining.tokens :=
    (drain_eq (a.getElem?_input_copyScanner scanner text)).2
  rw [logged_eq, Stream.remaining_ofText, tokenEvents, writeEvents, List.foldl_map]
  rfl

section Parses

variable {a machine} {p : Parser} (limit_eq : (a.machine machine).limit = p.limit)

include limit_eq

/-- A call reads what a parse on demand of its text reads. -/
theorem read_prepare (logged : String) :
    ((a.prepare scanner machine text).read level a.scanners.size a.machines.size logged).outcome =
        p.parse text ∧
      ((a.prepare scanner machine text).read level a.scanners.size a.machines.size logged).logged =
        loggedTokens level logged ((tokenize text).tokens.take (p.run text).seen) := by
  have isWorker := a.getElem?_machines_prepare scanner machine text
  rw [limit_eq] at isWorker
  rw [← p.demand_outcome, ← p.demand_tokens]
  exact read_eq (a.getElem?_input_copyScanner scanner text) isWorker holds_start reads_start

/-- A text is parsed as by a parser with the machine's limit, whatever the scanner and the machine
    were used for. -/
theorem parse_outcome : (a.parse level scanner machine text).outcome = p.parse text :=
  (read_prepare level scanner text limit_eq _).1

/-- Its log is that of the parse. -/
theorem parse_logged :
    (a.parse level scanner machine text).logged = writeEvents level (p.events text) := by
  obtain ⟨outcome_eq, logged_eq⟩ := read_prepare level scanner text limit_eq
    (writeEvents level [.debug s!"Parsing {quoted text}" []])
  rw [parse, logged_eq, outcome_eq, Parser.events, tokenEvents, ← List.map_take, loggedTokens]
  simp only [writeEvents, List.foldl_cons, List.foldl_append, List.foldl_map, List.foldl_nil]

end Parses

end Texts

end Apparatus

end ModalLanguage
