import TapeLang.Machine.Step
import TapeLang.Proofs.Json.Printing
import TapeLang.Proofs.Json.Reading
import TapeLang.Proofs.Machine.Endings
import TapeLang.Proofs.Text.Parts
import TapeLang.Report.Json

/-! What a report in JSON tells: everything that is noted of the error and of the kept steps can be
read off it, and nothing else has a say in its text. -/

set_option autoImplicit false

namespace TapeLang.Report

structure ErrorNote where
  type : String
  kind : String
  message : String
  pc : Option Int
  pointer : Option Int
  failingStep : Option Int

structure PlaceNote where
  file : String
  line : Int
  column : Int

structure StepNote where
  stepIndex : Nat
  pc : Int
  op : String
  pointer : Int
  cell : Int
  place : Option PlaceNote
  window : Option Tape.Window

def ErrorNote.numbers (note : ErrorNote) : List Int :=
  note.pc.toList ++ note.pointer.toList ++ note.failingStep.toList

def PlaceNote.numbers (note : PlaceNote) : List Int := [note.line, note.column]

def windowNumbers (window : Tape.Window) : List Int :=
  ↑window.start :: window.cells.map fun cell => ↑cell.toNat

def StepNote.numbers (note : StepNote) : List Int :=
  [↑note.stepIndex, note.pc, note.pointer, note.cell] ++
    note.place.elim [] PlaceNote.numbers ++ note.window.elim [] windowNumbers

def noteError (error : RunError) : ErrorNote where
  type := error.type
  kind := error.kind
  message := error.message
  pc := error.pc
  pointer := error.pointer
  failingStep := error.stepIndex

def notePlace (location : SourceLocation) : PlaceNote where
  file := location.file
  line := location.line
  column := location.column

def noteStep (entry : LogEntry) : StepNote where
  stepIndex := entry.stepIndex
  pc := entry.pc
  op := entry.op.name
  pointer := entry.pointer
  cell := entry.cell
  place := entry.location.map notePlace
  window := entry.window

def noteSteps (log : StepLog) : List StepNote := log.entries.toList.map noteStep

def noteNumbers (log : StepLog) (error : RunError) : List Int :=
  (noteError error).numbers ++ (noteSteps log).flatMap StepNote.numbers

/-! ## Reading a document -/

def readNat? : Value → Option Nat
  | .int n => if 0 ≤ n then some n.toNat else none
  | _ => none

def readNumber? : Value → Option (Option Int)
  | .null => some none
  | .int n => some (some n)
  | _ => none

def readOptional? {α : Type} (read? : Value → Option α) : Option Value → Option (Option α)
  | none => some none
  | some v => (read? v).map some

def readError? (v : Value) : Option ErrorNote := do
  let type ← (← v.member? "type").text?
  let kind ← (← v.member? "kind").text?
  let message ← (← v.member? "message").text?
  let pc ← readNumber? (← v.member? "pc")
  let pointer ← readNumber? (← v.member? "pointer")
  let failingStep ← readNumber? (← v.member? "failing_step_index")
  pure { type, kind, message, pc, pointer, failingStep }

def readPlace? (v : Value) : Option PlaceNote := do
  let file ← (← v.member? "file").text?
  let line ← (← v.member? "line").int?
  let column ← (← v.member? "column").int?
  pure { file, line, column }

def readWindow? (v : Value) : Option Tape.Window := do
  let start ← readNat? (← v.member? "start")
  let cells ← (← (← v.member? "cells").list?).mapM Value.cell?
  pure { start, cells }

def readStep? (v : Value) : Option StepNote := do
  let stepIndex ← readNat? (← v.member? "step_index")
  let pc ← (← v.member? "pc").int?
  let op ← (← v.member? "op").text?
  let pointer ← (← v.member? "pointer").int?
  let cell ← (← v.member? "cell").int?
  let place ← readOptional? readPlace? (v.member? "source_location")
  let window ← readOptional? readWindow? (v.member? "tape_snapshot")
  pure { stepIndex, pc, op, pointer, cell, place, window }

/-- The notes of a document: of the error, and of the steps in their order. -/
def readNotes? (v : Value) : Option (ErrorNote × List StepNote) := do
  let error ← readError? (← v.member? "error")
  let steps ← (← (← v.member? "steps").list?).mapM readStep?
  pure (error, steps)

/-! ## What is written is read -/

theorem readNumber?_number? (n : Option Int) : readNumber? (number? n) = some n := by
  cases n <;> rfl

theorem readError?_errorValue (error : RunError) :
    readError? (errorValue error) = some (noteError error) := by
  simp [readError?, errorValue, Value.member?, Value.text?, readNumber?_number?, noteError]

theorem readNat?_natCast (n : Nat) : readNat? (.int n) = some n := by
  rw [readNat?, if_pos (Int.natCast_nonneg n), Int.toNat_natCast]

theorem cell?_toNat (cell : UInt8) : Value.cell? (.int cell.toNat) = some cell := by
  have small : (cell.toNat : Int) < 256 := by
    have := cell.toNat_lt
    omega
  simp [Value.cell?, small]

theorem readWindow?_windowValue (window : Tape.Window) :
    readWindow? (windowValue window) = some window := by
  have cells : (window.cells.map fun c => Value.int c.toNat).mapM Value.cell? =
      some (window.cells.map id) := Text.mapM_map_read cell?_toNat window.cells
  simp [readWindow?, windowValue, Value.member?, Value.list?, readNat?_natCast, cells]

theorem readStep?_entryValue (entry : LogEntry) :
    readStep? (entryValue entry) = some (noteStep entry) := by
  obtain ⟨stepIndex, pc, op, pointer, cell, location, window⟩ := entry
  cases location <;> cases window <;>
    simp [readStep?, entryValue, Value.member?, Value.text?, Value.int?, noteStep, locationMembers,
      windowMembers, readNat?_natCast, readOptional?, readWindow?_windowValue, readPlace?, notePlace]

theorem readNotes?_jsonValue (log : StepLog) (error : RunError) :
    readNotes? (jsonValue log error) = some (noteError error, noteSteps log) := by
  simp [readNotes?, jsonValue, Value.member?, Value.list?, readError?_errorValue,
    Text.mapM_map_read readStep?_entryValue, noteSteps]

/-! ## What is written depends on the notes alone -/

theorem locationMembers_congr {location other : Option SourceLocation}
    (same : location.map notePlace = other.map notePlace) :
    locationMembers location = locationMembers other := by
  cases location <;> cases other <;> simp_all [notePlace, locationMembers]

theorem entryValue_congr {entry other : LogEntry} (same : noteStep entry = noteStep other) :
    entryValue entry = entryValue other := by
  simp only [noteStep, StepNote.mk.injEq] at same
  obtain ⟨stepIndex, pc, op, pointer, cell, place, window⟩ := same
  simp only [entryValue, stepIndex, pc, op, pointer, cell, locationMembers_congr place, window]

theorem map_entryValue_congr {entries others : List LogEntry}
    (same : entries.map noteStep = others.map noteStep) :
    entries.map entryValue = others.map entryValue := by
  induction entries generalizing others with
  | nil =>
    rw [List.map_eq_nil_iff.mp same.symm]
  | cons entry entries ih =>
    obtain ⟨other, others, rfl, first, rest⟩ := List.map_eq_cons_iff.mp same.symm
    rw [List.map_cons, List.map_cons, entryValue_congr first, ih rest.symm]

theorem errorValue_congr {error other : RunError} (same : noteError error = noteError other) :
    errorValue error = errorValue other := by
  simp only [noteError, ErrorNote.mk.injEq] at same
  obtain ⟨type, kind, message, pc, pointer, stepIndex⟩ := same
  simp only [errorValue, type, kind, message, pc, pointer, stepIndex]

/-! ## The numbers that are written are those of the notes -/

open Json (numbers numbersOfItems numbersOfMembers)

theorem numbers_number? (n : Option Int) : numbers (number? n) = n.toList := by
  cases n <;> rfl

theorem numbersOfMembers_append (first second : List (String × Value)) :
    numbersOfMembers (first ++ second) = numbersOfMembers first ++ numbersOfMembers second := by
  induction first with
  | nil => rfl
  | cons m rest ih =>
    rw [List.cons_append, numbersOfMembers, numbersOfMembers, ih, List.append_assoc]

theorem numbersOfItems_map {α : Type} (value : α → Value) (xs : List α) :
    numbersOfItems (xs.map value) = xs.flatMap fun x => numbers (value x) := by
  induction xs with
  | nil => rfl
  | cons x xs ih => rw [List.map_cons, numbersOfItems, ih, List.flatMap_cons]

theorem numbers_errorValue (error : RunError) :
    numbers (errorValue error) = (noteError error).numbers := by
  simp [errorValue, numbers, numbersOfMembers, numbers_number?, noteError, ErrorNote.numbers]

theorem numbers_windowValue (window : Tape.Window) :
    numbers (windowValue window) = windowNumbers window := by
  have cells (cells : List UInt8) : numbersOfItems (cells.map fun c => .int c.toNat) =
      cells.map fun c => ↑c.toNat := by
    rw [numbersOfItems_map, List.map_eq_flatMap]
    rfl
  simp [windowValue, numbers, numbersOfMembers, cells, windowNumbers]

theorem numbersOfMembers_locationMembers (location : Option SourceLocation) :
    numbersOfMembers (locationMembers location) =
      (location.map notePlace).elim [] PlaceNote.numbers := by
  cases location <;> rfl

theorem numbersOfMembers_windowMembers (window : Option Tape.Window) :
    numbersOfMembers (windowMembers window) = window.elim [] windowNumbers := by
  cases window with
  | none => rfl
  | some window => exact (List.append_nil _).trans (numbers_windowValue window)

theorem numbers_entryValue (entry : LogEntry) :
    numbers (entryValue entry) = (noteStep entry).numbers := by
  rw [entryValue, numbers, numbersOfMembers_append, numbersOfMembers_append,
    numbersOfMembers_locationMembers, numbersOfMembers_windowMembers]
  rfl

theorem numbers_jsonValue (log : StepLog) (error : RunError) :
    numbers (jsonValue log error) = noteNumbers log error := by
  simp only [jsonValue, numbers, numbersOfMembers, numbersOfItems_map, List.append_nil,
    numbers_errorValue, numbers_entryValue, noteNumbers, noteSteps, List.flatMap_map]

/-! ## Reports -/

open Json (Whole)

theorem whole_number? (n : Option Int) : Whole (number? n) := by
  cases n with
  | none => exact .null
  | some n => exact .int n

theorem whole_errorValue (error : RunError) : Whole (errorValue error) :=
  .object (by simp [Whole.text, whole_number?])

theorem whole_windowValue (window : Tape.Window) : Whole (windowValue window) := by
  have cells : Whole (.list (window.cells.map fun c => .int c.toNat)) :=
    .list (by simp [Whole.int])
  exact .object (by simp [Whole.int, cells])

theorem whole_entryValue (entry : LogEntry) : Whole (entryValue entry) := by
  obtain ⟨stepIndex, pc, op, pointer, cell, location, window⟩ := entry
  have place (location : SourceLocation) : Whole (.object
      [("file", .text location.file), ("line", .int location.line),
        ("column", .int location.column)]) :=
    .object (by simp [Whole.int, Whole.text])
  refine .object ?_
  cases location <;> cases window <;>
    simp [locationMembers, windowMembers, Whole.int, Whole.text, whole_windowValue, place]

theorem whole_jsonValue (log : StepLog) (error : RunError) : Whole (jsonValue log error) := by
  have steps : Whole (.list (log.entries.toList.map entryValue)) :=
    .list (by simp [whole_entryValue])
  exact .object (by simp [whole_errorValue, steps])

section
variable {log otherLog : StepLog} {error otherError : RunError} {report : String}

theorem json_eq (log : StepLog) (error : RunError) : json log error =
    Failure.ofWriting (Decimal.showing (noteNumbers log error) (Json.indented (jsonValue log error))) := by
  rw [json, Json.write, numbers_jsonValue]

theorem json_eq_ok : json log error = .ok report ↔
    (∀ n ∈ noteNumbers log error, Decimal.Writable n) ∧
      report = Json.indented (jsonValue log error) := by
  rw [json_eq, Failure.ofWriting_showing_eq_ok]

theorem document_json (written : json log error = .ok report) :
    Json.Document (jsonValue log error) report.toList := by
  obtain ⟨_, rfl⟩ := json_eq_ok.mp written
  exact Json.document_indented (whole_jsonValue log error)

/-- The notes are read off the document, so reports of the same text have the same notes. -/
theorem notes_of_json_eq (written : json log error = .ok report)
    (same : json otherLog otherError = .ok report) :
    noteError error = noteError otherError ∧ noteSteps log = noteSteps otherLog := by
  have sameValue := Json.document_unique (document_json written) (document_json same)
  have read := readNotes?_jsonValue log error
  rw [sameValue, readNotes?_jsonValue, Option.some.injEq, Prod.mk.injEq] at read
  exact ⟨read.1.symm, read.2.symm⟩

theorem json_congr (sameError : noteError error = noteError otherError)
    (sameSteps : noteSteps log = noteSteps otherLog) : json log error = json otherLog otherError := by
  rw [json, json, jsonValue, jsonValue, errorValue_congr sameError, map_entryValue_congr sameSteps]

end

/-- There is a report in JSON if and only if all the numbers of its notes can be written out. It is one
document of ASCII characters, the notes of the error and of the kept steps can be read off it, and
another report has the same text if and only if all its notes are the same. -/
theorem json_tells (log : StepLog) (error : RunError) :
    ((∀ n ∈ noteNumbers log error, Decimal.Writable n) → ∃ report, json log error = .ok report) ∧
      (¬ (∀ n ∈ noteNumbers log error, Decimal.Writable n) →
        json log error = .error (.unwritable .tooManyDigits)) ∧
      ∀ report, json log error = .ok report →
        Json.Ascii report.toList ∧
        (∃ document, (∀ v, Json.Document v report.toList ↔ v = document) ∧
          Json.parse? report = some document ∧
          readNotes? document = some (noteError error, noteSteps log)) ∧
        ∀ (otherLog : StepLog) (otherError : RunError), json otherLog otherError = .ok report ↔
          noteError error = noteError otherError ∧ noteSteps log = noteSteps otherLog := by
  refine ⟨fun writable => ⟨_, json_eq_ok.mpr ⟨writable, rfl⟩⟩, fun unwritable => ?_, ?_⟩
  · rw [json_eq, Failure.ofWriting_showing_of_not unwritable]
  · intro report written
    have document := document_json written
    obtain ⟨_, text⟩ := json_eq_ok.mp written
    refine ⟨text ▸ Json.ascii_indented (whole_jsonValue log error), ⟨jsonValue log error,
      fun v => ⟨?_, ?_⟩, Json.parse?_document document, readNotes?_jsonValue log error⟩,
      fun otherLog otherError => ⟨?_, ?_⟩⟩
    · exact fun again => Json.document_unique again document
    · rintro rfl
      exact document
    · exact notes_of_json_eq written
    · exact fun ⟨sameError, sameSteps⟩ => json_congr sameError sameSteps ▸ written

/-- A run may leave an error that has no report, because its counter is too long. -/
theorem exists_unreported :
    ∃ (m : Machine ScriptReader BufferWriter) (error : RunError)
      (state : Machine ScriptReader BufferWriter),
      Machine.create { code := #[⟨.jumpIfZero, some (-10 ^ Decimal.maxDigits - 1)⟩] } {} {} false {} =
          .ok m ∧
        m.run 2 = .stopped (.run error) state ∧ ∀ report, json state.log error ≠ .ok report := by
  have tooLong : ¬ Decimal.Writable (-10 ^ Decimal.maxDigits) := fun writable =>
    Decimal.not_writable_pow (Decimal.writable_neg.mp writable)
  have before : (-10 ^ Decimal.maxDigits : Int) < -1 := by
    have positive : (0 : Int) < 10 ^ Decimal.maxDigits := Int.pow_pos (by decide)
    by_contra near
    exact tooLong (Decimal.writable_of_lt (show _ < 10 ^ 1 by omega) (by decide))
  obtain ⟨m, error, state, created, stopped, counter⟩ := Machine.exists_stopped_before before
  refine ⟨m, error, state, created, stopped, fun report written => tooLong ?_⟩
  refine (json_eq_ok.mp written).1 _ (List.mem_append_left _ ?_)
  simp [noteError, ErrorNote.numbers, counter]

end TapeLang.Report
