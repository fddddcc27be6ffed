import TapeLang.Proofs.Channel.Records
import TapeLang.Proofs.Machine.Input

/-! What a run without hooks writes.

An output instruction writes the current cell, and nothing else writes. A writer that fails stops the
run there, with everything that was written before. -/

set_option autoImplicit false

namespace TapeLang

def Transfer.cell? : Transfer → Option UInt8
  | wrote cell _ => some cell
  | read _ => none

@[simp] theorem Transfer.filterMap_cell?_wrote (cell : UInt8) (answer : Except Failure Unit)
    (rest : List Transfer) :
    (wrote cell answer :: rest).filterMap cell? = cell :: rest.filterMap cell? := rfl

section

variable {ρ ω : Type} [Reader ρ] {reader last : ρ} {transfers : List Transfer}

theorem Replay.records {writer final : BufferWriter}
    (replay : Replay reader writer transfers last final) {codec : Codec} {given : List UInt8}
    (records : writer.Records codec given) :
    final.Records codec (given ++ transfers.filterMap Transfer.cell?) := by
  induction replay generalizing given with
  | nil => rwa [List.filterMap_nil, List.append_nil]
  | @wrote _ _ writer _ cell _ _ ih =>
    obtain ⟨next, written, more⟩ := records.write cell
    rw [written] at ih
    rw [Transfer.filterMap_cell?_wrote, List.append_cons]
    exact ih more
  | read _ ih => exact ih records

/-- A writer that has not failed yet does as the one inside. -/
theorem Replay.sound [Writer ω] {writer final : ω}
    (replay : Replay reader writer transfers last final) (failure : Failure) {calls failing : Nat}
    (few : calls + (transfers.filterMap Transfer.cell?).length ≤ failing) :
    Replay reader (FaultyWriter.mk writer calls (some (↑failing, failure))) transfers last
      ⟨final, calls + (transfers.filterMap Transfer.cell?).length, some (↑failing, failure)⟩ := by
  induction replay generalizing calls with
  | nil => exact .nil
  | wrote _ ih =>
    rw [Transfer.filterMap_cell?_wrote, List.length_cons, Nat.add_comm _ 1, ← Nat.add_assoc] at few ⊢
    rw [replay_wrote, FaultyWriter.write_sound (by omega)]
    exact ⟨rfl, ih few⟩
  | read _ ih => exact .read (ih few)

end

namespace Machine

variable {ρ ω : Type}

/-- The machine with a writer around its own that has been called a number of times, and of which one
writing is made to fail. -/
def sabotaged (calls failing : Nat) (failure : Failure) (m : Machine ρ ω) :
    Machine ρ (FaultyWriter ω) :=
  m.rewired m.reader ⟨m.writer, calls, some (↑failing, failure)⟩

variable [Reader ρ] [Writer ω] {m : Machine ρ ω} {pc : Int} {p k turns : Nat} {failure : Failure}

theorem At.cell?_transfer? (here : m.At pc p) :
    m.transfer?.bind Transfer.cell? = if m.op? = some .output then m.cell? else none := by
  simp only [Machine.transfer?, op?, here.counter, here.cell?, Option.map_some]
  cases m.program.fetch pc with
  | finished | outside => rfl
  | instruction inst =>
    obtain ⟨op, target⟩ := inst
    cases op <;> rfl

theorem At.filterMap_cell? (here : m.At pc p) (turns : Nat) :
    (m.transfers turns).filterMap Transfer.cell? = m.cellsAt .output turns := by
  rw [cellsAt, transfers_eq_filterMap, List.filterMap_filterMap]
  refine List.filterMap_congr fun state visited => ?_
  obtain ⟨pc, p, there⟩ := here.at_of_visit visited
  exact there.cell?_transfer?

variable {program : Program} {reader : ρ} {verbose : Bool} {history : Option Int}

/-- As long as there is no more than `k` to write, a run does not notice that the writing after that
would fail. -/
theorem repeats_of_sound {writer : ω} {n : Machine ρ (FaultyWriter ω)}
    (created : create program reader writer verbose {} history = .ok m)
    (sabotage : create program reader ⟨writer, 0, some (↑k, failure)⟩ verbose {} history = .ok n)
    (few : m.times .output turns ≤ k) :
    Repeats (sabotaged (m.times .output turns) k failure) turns m n := by
  refine repeats_of_replay created sabotage fun left after replay => ?_
  have start := (fresh_of_create created).initial.at
  have count : ((m.transfers turns).filterMap Transfer.cell?).length = m.times .output turns := by
    rw [start.filterMap_cell?, start.length_cellsAt]
  have within : 0 + ((m.transfers turns).filterMap Transfer.cell?).length ≤ k := by
    rwa [Nat.zero_add, count]
  have again := replay.sound failure within
  rw [Nat.zero_add, count] at again
  exact ⟨left, _, again, fun state reader writer => by rw [sabotaged, reader, writer]⟩

/-- A run that is stopped by a failing writer, after `i` turns of the run with a sound writer: it takes
the same turns, and ends with everything as it was when the failing output had been logged. Its error
is caused by the writer's failure, if that has words. -/
structure BreaksOff (m : Machine ρ ω) (n : Machine ρ (FaultyWriter ω)) (k : Nat) (failure : Failure)
    (i : Nat) (before : Machine ρ ω) (error : RunError) (state : Machine ρ (FaultyWriter ω)) :
    Prop where
  reaches : m.Reaches i before
  meets : before.op? = some .output
  count : m.times .output i = k
  follows : ∀ j ≤ i, ∀ earlier, m.Reaches j earlier →
    n.Reaches j (earlier.sabotaged (m.times .output j) k failure)
  stops : ∀ fuel, n.run fuel = if i < fuel then .stopped (.run error) state else .exhausted
  told : ∀ message, failure.message = .ok message → error.kind = "IOFailure" ∧
    error.reason.cause? = some failure ∧ error.reason.linkedCause? = some failure
  untold : ∀ why, failure.message = .error why → error.reason = .internal (.unwritable why)
  place : error.pc = before.pc ∧ error.pointer = some before.pointer ∧ error.location = before.here
  left : state.tape = before.tape ∧ state.pointer = before.pointer ∧ state.pc = before.pc ∧
    state.reader = before.reader ∧ state.writer.inner = before.writer
  stepCount : state.log.stepCount = i + 1
  log : ∀ outcome, before.turn? = some outcome → outcome.Leaves fun after => state.log = after.log

theorem At.turn_sabotaged (here : m.At pc p) {inst : Instruction}
    (fetched : m.program.fetch pc = .instruction inst) (output : inst.op = .output) :
    (m.sabotaged k k failure).turn? = some (.stopped
      (.ofError (m.errorHere (.channelFailed .output failure)))
      ((m.logged inst).sabotaged (k + 1) k failure)) := by
  have there : (m.sabotaged k k failure).At pc p := here.rewired _ _
  have fetchedToo : (m.sabotaged k k failure).program.fetch pc = .instruction inst := fetched
  have same : (m.sabotaged k k failure).logged inst = (m.logged inst).sabotaged k k failure := by
    simp only [sabotaged, logged_rewired, reader_logged, writer_logged]
  have refused : Refused p ((m.logged inst).tape.cell p) (m.logged inst).reader
      (FaultyWriter.mk (m.logged inst).writer k (some (↑k, failure))) inst.op
      (.channelFailed .output failure) (m.logged inst).reader
      ⟨(m.logged inst).writer, k + 1, some (↑k, failure)⟩ := by
    rw [output]
    exact .write (FaultyWriter.write_failing _)
  have logged : ((m.logged inst).sabotaged k k failure).At pc p := same ▸ there.logged inst
  rw [there.turn_eq fetchedToo, same, logged.perform_refused refused, ← errorHere_logged inst m]
  rfl

/-- A writer that fails stops the run where it first has to write after `k` other cells. -/
theorem exists_breaksOff {writer : ω} {n : Machine ρ (FaultyWriter ω)}
    (created : create program reader writer verbose {} history = .ok m)
    (sabotage : create program reader ⟨writer, 0, some (↑k, failure)⟩ verbose {} history = .ok n)
    (more : k < m.times .output turns) :
    ∃ i < turns, ∃ before error state, BreaksOff m n k failure i before error state := by
  have fresh := fresh_of_create created
  have start := fresh.initial.at
  obtain ⟨i, within, before, reaches, count, meets⟩ := exists_visit more
  rw [decide_eq_true_eq] at meets
  obtain ⟨pc, p, here⟩ := start.located reaches
  obtain ⟨inst, fetched, output⟩ := here.op?_eq_some.mp meets
  have follows (j : Nat) (sooner : j ≤ i) (earlier : Machine ρ ω) (reached : m.Reaches j earlier) :
      n.Reaches j (earlier.sabotaged (m.times .output j) k failure) :=
    (repeats_of_sound created sabotage ((times_mono sooner).trans_eq count)).reaches _ reached
  have gets := follows i (Nat.le_refl _) before reaches
  rw [show m.times .output i = k from count] at gets
  have steps : before.log.stepCount = i := by
    obtain ⟨capacity, _, log⟩ := log_of_create created
    obtain ⟨all, kept, length⟩ := reaches.keeps (log ▸ StepLog.keeps_empty verbose capacity)
    rw [kept.stepCount, length, List.length_nil, Nat.zero_add]
  have breaks : (before.sabotaged k k failure).turn? = _ := here.turn_sabotaged fetched output
  let reason := Reason.channelFailed .output failure
  have refused : ((before.logged inst).sabotaged (k + 1) k failure).report
      (.ofError (before.errorHere reason)) =
        .run ((before.errorHere reason.told).attachStep (before.logged inst).log) := by
    have there : (before.sabotaged (k + 1) k failure).At pc p := here.rewired _ _
    have same : (before.sabotaged (k + 1) k failure).logged inst =
        (before.logged inst).sabotaged (k + 1) k failure := by
      simp only [sabotaged, logged_rewired, reader_logged, writer_logged]
    have reported := there.report_refused inst reason before.reader
      (FaultyWriter.mk before.writer (k + 1) (some (↑k, failure)))
    rw [same] at reported
    exact reported
  refine ⟨i, within, before,
    (before.errorHere reason.told).attachStep (before.logged inst).log,
    (before.logged inst).sabotaged (k + 1) k failure, ?_⟩
  exact {
    reaches
    meets
    count
    follows
    stops := fun fuel => by
      rw [(fresh_of_create sabotage).run_eq]
      split
      · rw [gets.execute_stopped breaks ‹_›, settle, refused]
      · rw [gets.execute_short (Nat.le_of_not_lt ‹_›)]
        rfl
    told := fun message words => by
      obtain ⟨text, worded⟩ : ∃ text, reason.message = .ok text := by
        simp only [reason, Reason.message, words]
        exact ⟨_, rfl⟩
      rw [Reason.told_of_message worded]
      exact ⟨rfl, rfl, rfl⟩
    untold := fun why wordless =>
      Reason.told_of_unworded ((Reason.message_eq_error (.inl ⟨.output, rfl⟩)).mpr wordless)
    place := ⟨rfl, rfl, rfl⟩
    left := ⟨tape_logged inst before, pointer_logged inst before, pc_logged inst before,
      reader_logged inst before, writer_logged inst before⟩
    stepCount := here.stepCount_logged.trans (congrArg (· + 1) steps)
    log := fun _ turned => (here.log_turn fetched turned).imp fun _ same => same.symm }

/-- With a writer that is made to fail at its `k`-th writing, counted from zero, a run without hooks
does as with the writer alone until it would write for that time, and is stopped there. At any time a
buffer holds the current cells where the run has met an output. -/
theorem run_writes {codec : Codec} {n : Machine ρ (FaultyWriter BufferWriter)}
    {m : Machine ρ BufferWriter}
    (created : create program reader { codec } verbose {} history = .ok m)
    (sabotage : create program reader ⟨{ codec }, 0, some (↑k, failure)⟩ verbose {} history = .ok n) :
    (∀ turns, k < m.times .output turns → ∃ i < turns, ∃ before error state,
      BreaksOff m n k failure i before error state ∧
        state.writer.inner.Records codec ((m.cellsAt .output turns).take k)) ∧
    (∀ turns, m.times .output turns ≤ k →
      Repeats (sabotaged (m.times .output turns) k failure) turns m n) ∧
    (∀ turns state, m.AfterSteps turns state →
      state.writer.Records codec (m.cellsAt .output turns)) ∧
    ∀ turns, (m.run turns).Leaves fun state =>
      state.writer.Records codec (m.cellsAt .output turns) := by
  have fresh := fresh_of_create created
  have start := fresh.initial.at
  obtain ⟨_, _, buffer⟩ := setup_of_create created
  have record {turns : Nat} {last : ρ} {final : BufferWriter}
      (replay : Replay m.reader m.writer (m.transfers turns) last final) :
      final.Records codec (m.cellsAt .output turns) := by
    rw [buffer] at replay
    rw [← start.filterMap_cell?]
    exact replay.records (BufferWriter.records_empty codec)
  refine ⟨fun turns more => ?_, fun turns few => repeats_of_sound created sabotage few,
    fun turns state after => record (start.replay_afterSteps after), fun turns => ?_⟩
  · obtain ⟨i, within, before, error, state, breaks⟩ := exists_breaksOff created sabotage more
    refine ⟨i, within, before, error, state, breaks, ?_⟩
    have first : (m.cellsAt .output turns).take k = m.cellsAt .output i := by
      rw [List.prefix_iff_eq_take.mp (prefix_cellsAt (Nat.le_of_lt within)), start.length_cellsAt,
        breaks.count]
    rw [first, breaks.left.2.2.2.2]
    exact record (start.replay_afterSteps (.top breaks.reaches))
  · exact (fresh.run_replay turns).imp fun _ => record

def stuttering : Machine ScriptReader BufferWriter where
  program := { code := #[⟨.output, none⟩, ⟨.output, none⟩] }
  reader := {}
  writer := { codec := .int }
  history := some 2
  log := StepLog.empty false (some 2)

-- The second writing is made to fail.
theorem stuttering_writes :
    ∃ n : Machine ScriptReader (FaultyWriter BufferWriter),
      create stuttering.program stuttering.reader stuttering.writer false {} (some 2) = .ok stuttering ∧
        create stuttering.program stuttering.reader
          ⟨stuttering.writer, 0, some (1, .raised .system "sink closed")⟩ false {} (some 2) = .ok n ∧
        stuttering.times .output 2 = 2 ∧
        ∃ i < 2, ∃ before error state,
          BreaksOff stuttering n 1 (.raised .system "sink closed") i before error state ∧
            state.writer.inner.Records .int ((stuttering.cellsAt .output 2).take 1) := by
  have created : create stuttering.program stuttering.reader stuttering.writer false {} (some 2) =
      .ok stuttering := rfl
  obtain ⟨n, sabotage⟩ : ∃ n, create stuttering.program stuttering.reader
      (FaultyWriter.mk stuttering.writer 0 (some (1, .raised .system "sink closed"))) false {}
      (some 2) = .ok n := ⟨_, rfl⟩
  have count : stuttering.times .output 2 = 2 := by decide +kernel
  have more : 1 < stuttering.times .output 2 := by
    rw [count]
    exact Nat.lt_succ_self 1
  exact ⟨n, created, sabotage, count, (run_writes created sabotage).1 2 more⟩

def single : Program where
  code := #[⟨.output, none⟩]
  locations := #[⟨"<string>", 1, 1, "."⟩]

/-- A second run goes on with the writer of the first one, and a writer's failure that has no words is
not the cause of the error that it leads to. -/
theorem single_writes_otherwise :
    load "." = .ok single ∧
    (∃ (m first second : Machine ScriptReader BufferWriter), create single {} {} false {} = .ok m ∧
      m.run 2 = .done first ∧ first.run 2 = .done second ∧ second.log.stepCount = 1 ∧
        second.writer.cells = #[0, 0]) ∧
    ∃ (m : Machine ScriptReader (FaultyWriter BufferWriter)) (error : RunError)
      (state : Machine ScriptReader (FaultyWriter BufferWriter)),
      create single {} ⟨{}, 0, some (0, .unworded "OSError" .tooManyDigits)⟩ false {} = .ok m ∧
        m.run 2 = .stopped (.run error) state ∧ error.kind = "Internal" ∧
        error.reason.cause? ≠ some (.unworded "OSError" .tooManyDigits) := by
  refine ⟨rfl, ?_, _, _, _, rfl, rfl, rfl, nofun⟩
  let m : Machine ScriptReader BufferWriter :=
    { program := single, reader := {}, writer := {}, log := StepLog.empty false (some 16) }
  have created : create single m.reader m.writer false {} = .ok m := rfl
  have ends : ((m.run 2).next (run 2)).done?.map
      (fun last => (last.log.stepCount, last.writer.cells)) = some (1, #[0, 0]) := by
    decide +kernel
  obtain ⟨second, finished, same⟩ := Option.map_eq_some_iff.mp ends
  obtain ⟨first, ran, again⟩ := Outcome.next_eq_done.mp (Outcome.done?_eq_some.mp finished)
  obtain ⟨count, cells⟩ := Prod.mk.inj same
  exact ⟨m, first, second, created, ran, again, count, cells⟩

end Machine

end TapeLang
