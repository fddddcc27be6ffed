import TapeLang.Proofs.Log.Kept
import TapeLang.Proofs.Machine.Effect
import TapeLang.Proofs.Machine.Run

/-! What a run does not depend on.

A log, its size, the windows in it and the locations of a program are there for reports. Two runs that
differ in nothing else do the same, and their logs differ only in how far back they reach and in what
is shown of each step. -/

set_option autoImplicit false

namespace TapeLang

namespace Program

variable {p q : Program}

theorem fetch_congr (same : q.code = p.code) (index : Int) : q.fetch index = p.fetch index := by
  obtain ⟨code, _, _⟩ := p
  obtain ⟨other, _, _⟩ := q
  obtain rfl : other = code := same
  rfl

end Program

/-- An entry without what is shown of it: where it stands in the source, and the cells around. -/
def LogEntry.plain (entry : LogEntry) : LogEntry := { entry with location := none, window := none }

/-- Faults that differ at most in where an error stands in the source, and in the step that it is
ascribed to unless both have one. -/
inductive Fault.SameBut (indexed : Prop) : Fault → Fault → Prop where
  | failure {failure : Failure} : SameBut indexed (.failure failure) (.failure failure)
  | run {error other : RunError} : other.reason = error.reason → other.pc = error.pc →
      other.pointer = error.pointer → (indexed → other.stepIndex = error.stepIndex) →
      SameBut indexed (.run error) (.run other)

theorem Fault.SameBut.imp {indexed indexed' : Prop} {fault other : Fault}
    (same : SameBut indexed fault other) (implies : indexed' → indexed) :
    SameBut indexed' fault other := by
  cases same with
  | failure => exact .failure
  | run reason pc pointer stepIndex =>
    exact .run reason pc pointer fun holds => stepIndex (implies holds)

namespace Machine

variable {ρ ω : Type}

/-- Machines in the same state of the same code, with logs that were given the same entries. -/
structure Twins (capacity other : Option Nat) (m n : Machine ρ ω) : Prop where
  core : m.SameCore n
  code : n.program.code = m.program.code
  logs : ∃ all others, m.log.Keeps capacity all ∧ n.log.Keeps other others ∧
    others.map LogEntry.plain = all.map LogEntry.plain

variable {m n : Machine ρ ω} {capacity other : Option Nat}

theorem Twins.stepCount (twins : m.Twins capacity other n) :
    n.log.stepCount = m.log.stepCount := by
  obtain ⟨all, others, keeps, keepsToo, same⟩ := twins.logs
  rw [keeps.stepCount, keepsToo.stepCount]
  simpa using congrArg List.length same

theorem Twins.last? (twins : m.Twins capacity other n) (room : capacity ≠ some 0)
    (roomToo : other ≠ some 0) :
    n.log.last?.map (·.stepIndex) = m.log.last?.map (·.stepIndex) := by
  obtain ⟨all, others, keeps, keepsToo, same⟩ := twins.logs
  rw [keeps.last?, keepsToo.last?, if_neg room, if_neg roomToo]
  have first := congrArg (fun entries => entries.head?.map (·.stepIndex)) same
  simpa [Option.map_map, Function.comp_def, LogEntry.plain] using first

/-- The entries for one instruction in two logs, as far as there is one. -/
theorem Twins.entryFor (twins : m.Twins capacity other n) (inst : Instruction) :
    (n.entryFor inst).map LogEntry.plain = (m.entryFor inst).map LogEntry.plain := by
  simp only [Machine.entryFor, cell?, twins.core.tape, twins.core.pointer, twins.core.counter,
    twins.stepCount]
  cases m.tape.get? m.pointer with
  | none => rfl
  | some cell => cases m.pc <;> rfl

theorem Twins.recordStep (twins : m.Twins capacity other n) {entry entry' : LogEntry}
    (same : entry'.plain = entry.plain) :
    (m.recordStep entry).Twins capacity other (n.recordStep entry') where
  core := ⟨twins.core.tape, twins.core.pointer, twins.core.counter, twins.core.reader,
    twins.core.writer⟩
  code := twins.code
  logs := by
    obtain ⟨all, others, keeps, keepsToo, alike⟩ := twins.logs
    exact ⟨entry :: all, entry' :: others, keeps.record entry, keepsToo.record entry',
      by simp only [List.map_cons, same, alike]⟩

theorem Twins.advance (twins : m.Twins capacity other n) :
    m.advance.Alike (Fault.SameBut True) (Twins capacity other) n.advance := by
  unfold Machine.advance
  rw [twins.core.counter]
  cases m.pc with
  | none => exact .stopped .failure twins
  | some pc =>
    exact .done ⟨⟨twins.core.tape, twins.core.pointer, rfl, twins.core.reader, twins.core.writer⟩,
      twins.code, twins.logs⟩

theorem Twins.sameBut (twins : m.Twins capacity other n) {left right : Fault}
    (same : SameFault m n left right) : Fault.SameBut True left right := by
  cases same with
  | failure => exact .failure
  | run => exact .run rfl twins.core.counter (congrArg some twins.core.pointer) fun _ => rfl

/-- The step that an error is ascribed to is that of the last entry, if the logs keep one. -/
theorem Twins.attachStep (twins : m.Twins capacity other n) {error error' : RunError}
    (same : Fault.SameBut True (.run error) (.run error')) :
    Fault.SameBut (capacity ≠ some 0 ∧ other ≠ some 0) (.run (error.attachStep m.log))
      (.run (error'.attachStep n.log)) := by
  cases same with
  | run reason pc pointer stepIndex =>
    refine .run reason pc pointer fun ⟨room, roomToo⟩ => ?_
    have last := congrArg (Option.map (Int.ofNat ·)) (twins.last? room roomToo)
    rw [Option.map_map, Option.map_map] at last
    simp only [RunError.attachStep, stepIndex trivial]
    exact congrArg (error.stepIndex <|> ·) last

theorem Twins.report (twins : m.Twins capacity other n) {fault fault' : Fault}
    (same : Fault.SameBut True fault fault') :
    Fault.SameBut (capacity ≠ some 0 ∧ other ≠ some 0) (m.report fault) (n.report fault') := by
  cases same with
  | @failure failure =>
    have refused := twins.sameBut (.refuse rfl rfl twins.core.counter (.internal failure))
    simp only [Machine.report]
    generalize m.refuse (.internal failure) = left at *
    generalize n.refuse (.internal failure) = right at *
    cases refused with
    | failure => exact .failure
    | run reason pc pointer stepIndex => exact twins.attachStep (.run reason pc pointer stepIndex)
  | run reason pc pointer stepIndex => exact twins.attachStep (.run reason pc pointer stepIndex)

theorem alike_settle {left right : Outcome Fault (Machine ρ ω)}
    (alike : left.Alike (Fault.SameBut True) (Twins capacity other) right) :
    (settle left).Alike (Fault.SameBut (capacity ≠ some 0 ∧ other ≠ some 0)) (Twins capacity other)
      (settle right) := by
  cases alike with
  | done twins => exact .done twins
  | stopped same twins => exact .stopped (twins.report same) twins
  | exhausted => exact .exhausted

/-- Any history can be had that is not negative and fits in a word. -/
theorem create_iff {program : Program} {reader : ρ} {writer : ω} {verbose : Bool}
    {history : Option Int} :
    (∃ m, create program reader writer verbose {} history = .ok m) ↔
      ∀ n, history = some n → 0 ≤ n ∧ n < Failure.wordBound := by
  constructor
  · rintro ⟨m, created⟩
    obtain ⟨_, valid, _⟩ := log_of_create created
    exact (StepLog.capacity_eq_ok.mp valid).2
  · intro fits
    have valid : StepLog.capacity history = _ := StepLog.capacity_eq_ok.mpr ⟨rfl, fits⟩
    simp only [create, reset, rewind, valid]
    exact ⟨_, rfl⟩

theorem twins_of_create {p q : Program} (equal : (p == q) = true) {reader : ρ} {writer : ω}
    {verbose verboseToo : Bool} {history other : Option Int}
    (created : create p reader writer verbose {} history = .ok m)
    (createdToo : create q reader writer verboseToo {} other = .ok n) :
    m.Twins (StepLog.kept history) (StepLog.kept other) n := by
  obtain ⟨program, ownReader, ownWriter⟩ := setup_of_create created
  obtain ⟨programToo, otherReader, otherWriter⟩ := setup_of_create createdToo
  obtain ⟨capacity, valid, log⟩ := log_of_create created
  obtain ⟨capacityToo, validToo, logToo⟩ := log_of_create createdToo
  have initial := (fresh_of_create created).initial
  have initialToo := (fresh_of_create createdToo).initial
  constructor
  · constructor
    · rw [initial.tape, initialToo.tape]
    · rw [initial.pointer, initialToo.pointer]
    · rw [initial.counter, initialToo.counter]
    · rw [ownReader, otherReader]
    · rw [ownWriter, otherWriter]
  · rw [program, programToo, Program.beq_iff.mp equal]
  · refine ⟨[], [], ?_, ?_, rfl⟩
    · rw [log, (StepLog.capacity_eq_ok.mp valid).1]
      exact StepLog.keeps_empty verbose _
    · rw [logToo, (StepLog.capacity_eq_ok.mp validToo).1]
      exact StepLog.keeps_empty verboseToo _

variable [Reader ρ] [Writer ω]

theorem Twins.perform (twins : m.Twins capacity other n) (inst : Instruction) :
    (m.perform inst).Alike (Fault.SameBut True) (Twins capacity other) (n.perform inst) := by
  refine (perform_framed twins.core inst).imp (fun _ _ => twins.sameBut) ?_
  rintro _ _ ⟨core, ⟨_, _, _, _, _, rfl, _⟩, _, _, _, _, _, rfl, _⟩
  exact ⟨core, twins.code, twins.logs⟩

theorem Twins.step (twins : m.Twins capacity other n) (inst : Instruction) (fuel : Nat) :
    (m.step fuel .closed inst).Alike (Fault.SameBut True) (Twins capacity other)
      (n.step fuel .closed inst) := by
  have entries := twins.entryFor inst
  rw [step_closed_eq, step_closed_eq]
  cases entered : m.entryFor inst with
  | error failure =>
    cases enteredToo : n.entryFor inst with
    | error failure' =>
      rw [entered, enteredToo] at entries
      cases entries
      exact .stopped .failure twins
    | ok entry =>
      rw [entered, enteredToo] at entries
      cases entries
  | ok entry =>
    cases enteredToo : n.entryFor inst with
    | error failure =>
      rw [entered, enteredToo] at entries
      cases entries
    | ok entry' =>
      rw [entered, enteredToo] at entries
      have plain : entry'.plain = entry.plain := Except.ok.inj entries
      exact ((twins.recordStep plain).perform inst).next (fun _ _ twins => twins)
        fun _ _ twins => twins.advance

theorem Twins.execute (twins : m.Twins capacity other n) (fuel : Nat) :
    (execute .closed fuel m).Alike (Fault.SameBut True) (Twins capacity other)
      (execute .closed fuel n) := by
  induction fuel generalizing m n with
  | zero => exact .exhausted
  | succ fuel ih =>
    rw [execute_succ_next, execute_succ_next, twins.core.counter]
    cases m.pc with
    | none => exact .stopped .failure twins
    | some pc =>
      dsimp only
      rw [Program.fetch_congr twins.code]
      cases m.program.fetch pc with
      | finished => exact .done twins
      | outside => exact .stopped .failure twins
      | instruction inst =>
        exact (twins.step inst fuel).next (fun _ _ twins => twins) fun _ _ twins => ih twins

/-- Changes a cell, fails to move left, and keeps a log of the last step only. -/
def terse : Machine ScriptReader BufferWriter where
  program := { code := #[⟨.increment, none⟩, ⟨.moveLeft, none⟩] }
  reader := {}
  writer := {}
  history := some 1
  log := StepLog.empty false (some 1)

end Machine

end TapeLang
