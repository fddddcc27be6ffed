import TapeLang.Proofs.Channel.Answers
import TapeLang.Proofs.Machine.Rewired

/-! What a run without hooks reads.

An input instruction reads once, and nothing else reads. So a run gets the answers of its reader in
their order, and what it has not read yet does not matter to it. -/

set_option autoImplicit false

namespace TapeLang

def Transfer.isRead : Transfer → Bool
  | read _ => true
  | wrote _ _ => false

section

variable {ρ ω σ : Type} [Reader ρ] [Writer ω] [Reader σ] {reader last : ρ} {writer final : ω}
  {transfers : List Transfer}

theorem Replay.after_reads (replay : Replay reader writer transfers last final) :
    last = Reader.after (transfers.countP Transfer.isRead) reader := by
  induction replay with
  | nil => rfl
  | wrote _ ih => exact ih
  | read _ ih =>
    rw [List.countP_cons_of_pos rfl]
    exact ih

/-- Another reader may be read from, if it gives the answers that have been read. -/
theorem Replay.reread (replay : Replay reader writer transfers last final) (other : σ)
    (agree : ∀ j < transfers.countP Transfer.isRead, Reader.answer j other = Reader.answer j reader) :
    Replay other writer transfers (Reader.after (transfers.countP Transfer.isRead) other) final := by
  induction replay generalizing other with
  | nil => exact .nil
  | wrote _ ih => exact .wrote (ih other agree)
  | read _ ih =>
    rw [List.countP_cons_of_pos rfl] at agree ⊢
    exact replay_read.mpr ⟨(agree 0 (Nat.zero_lt_succ _)).symm,
      ih _ fun j few => agree (j + 1) (Nat.succ_lt_succ few)⟩

end

namespace Machine

variable {ρ ω : Type}

def receive (m : Machine ρ ω) (pc : Int) (p : Nat) (answer : Except Failure Value) (reader : ρ) :
    Outcome Fault (Machine ρ ω) :=
  match answer with
  | .error failure =>
    .stopped (.ofError (m.errorHere (.channelFailed .input failure))) { m with reader }
  | .ok value =>
    match value.cell? with
    | none => .stopped (.ofError (m.errorHere (.badInput value))) { m with reader }
    | some cell => .done ({ m with reader, tape := m.tape.put p cell }.pass pc)

variable [Reader ρ] [Writer ω] {m state : Machine ρ ω} {pc : Int} {p turns : Nat}

theorem At.isRead_transfer? (here : m.At pc p) :
    (m.transfer?.map Transfer.isRead).getD false = decide (m.op? = some .input) := by
  simp only [Machine.transfer?, op?, here.counter, here.cell?, Option.map_some]
  cases m.program.fetch pc with
  | finished | outside => rfl
  | instruction inst =>
    obtain ⟨op, target⟩ := inst
    cases op <;> rfl

theorem At.countP_isRead (here : m.At pc p) (turns : Nat) :
    (m.transfers turns).countP Transfer.isRead = m.times .input turns := by
  rw [times, transfers_eq_filterMap, List.countP_filterMap]
  refine List.countP_congr fun state visited => ?_
  obtain ⟨pc, p, there⟩ := here.at_of_visit visited
  rw [there.isRead_transfer?]

theorem At.turn_input (here : m.At pc p) {inst : Instruction}
    (fetched : m.program.fetch pc = .instruction inst) (reads : inst.op = .input) :
    m.turn? = some ((m.logged inst).receive pc p (Reader.read m.reader).1
      (Reader.read m.reader).2) := by
  rw [here.turn_eq fetched, (here.logged inst).perform_advance, reads]
  simp only [receive, reader_logged, tape_logged]
  rcases Reader.read m.reader with ⟨_ | value, reader⟩
  · rfl
  · cases cell : value.cell? <;> simp only [cell]

/-- How a run without hooks reads from a reader: as often as it meets an input, and each input gets the
next answer. -/
structure ReadsInOrder (reader : ρ) (m : Machine ρ ω) : Prop where
  reads : ∀ turns state, m.AfterSteps turns state →
    state.reader = Reader.after (m.times .input turns) reader
  receives : ∀ turns state, m.Reaches turns state → state.op? = some .input →
    ∃ pc p inst, state.At pc p ∧ state.program.fetch pc = .instruction inst ∧
      state.turn? = some ((state.logged inst).receive pc p
        (Reader.answer (m.times .input turns) reader)
        (Reader.after (m.times .input turns + 1) reader))
  leaves : ∀ turns, (m.run turns).Leaves fun state =>
    state.reader = Reader.after (m.times .input turns) reader

variable {program : Program} {reader : ρ} {writer : ω} {verbose : Bool} {history : Option Int}

theorem readsInOrder_of_create (created : create program reader writer verbose {} history = .ok m) :
    m.ReadsInOrder reader := by
  have fresh := fresh_of_create created
  have start := fresh.initial.at
  obtain ⟨_, rfl, _⟩ := setup_of_create created
  have read {turns : Nat} {last : ρ} {final : ω}
      (replay : Replay m.reader m.writer (m.transfers turns) last final) :
      last = Reader.after (m.times .input turns) m.reader := by
    rw [← start.countP_isRead]
    exact replay.after_reads
  refine ⟨fun turns state after => read (start.replay_afterSteps after), ?_, fun turns => ?_⟩
  · intro turns state reaches meets
    obtain ⟨pc, p, here⟩ := start.located reaches
    obtain ⟨inst, fetched, input⟩ := here.op?_eq_some.mp meets
    refine ⟨pc, p, inst, here, fetched, ?_⟩
    rw [here.turn_input fetched input, read (start.replay_afterSteps (.top reaches)),
      Reader.after_succ, Reader.answer]
  · exact (fresh.run_replay turns).imp fun _ => read

/-- With a reader that agrees in the first answers, a run is the same for as long as it reads no more
than these. -/
theorem repeats_of_agree {σ : Type} [Reader σ] {other : σ} {n : Machine σ ω} {k : Nat}
    (created : create program reader writer verbose {} history = .ok m)
    (createdToo : create program other writer verbose {} history = .ok n)
    (agree : ∀ j < k, Reader.answer j other = Reader.answer j reader)
    (few : m.times .input turns ≤ k) :
    Repeats (fun state =>
      state.rewired (Reader.after (m.times .input turns) other) state.writer) turns m n := by
  refine repeats_of_replay created createdToo fun left after replay => ?_
  have count := (fresh_of_create created).initial.at.countP_isRead turns
  rw [← count] at few ⊢
  exact ⟨_, after, replay.reread other fun j less => agree j (less.trans_le few),
    fun state _ writer => by rw [writer]⟩

/-- A run without hooks reads once at each input and never otherwise, and is the same for any two
readers as long as it only gets answers that they agree in. In particular it does not matter whether
bytes are read from a stream or from a buffer. -/
theorem run_reads (created : create program reader writer verbose {} history = .ok m) :
    m.ReadsInOrder reader ∧
      (∀ {σ : Type} [Reader σ] (other : σ) (n : Machine σ ω) (k : Nat),
        create program other writer verbose {} history = .ok n →
        (∀ j < k, Reader.answer j other = Reader.answer j reader) →
        ∀ turns, m.times .input turns ≤ k →
          Repeats (fun state =>
            state.rewired (Reader.after (m.times .input turns) other) state.writer) turns m n) ∧
      ∀ (bytes : List UInt8) (atEnd : Option Value) (streamed : Machine StreamReader ω)
        (buffered : Machine BufferReader ω),
        create program ⟨bytes, atEnd⟩ writer verbose {} history = .ok streamed →
        create program ⟨bytes.toArray, 0, atEnd⟩ writer verbose {} history = .ok buffered →
        streamed.ReadsInOrder ⟨bytes, atEnd⟩ ∧ buffered.ReadsInOrder ⟨bytes.toArray, 0, atEnd⟩ ∧
          (∀ j, Reader.answer j (StreamReader.mk bytes atEnd) = answerAt bytes atEnd j ∧
            Reader.answer j (BufferReader.mk bytes.toArray 0 atEnd) = answerAt bytes atEnd j) ∧
          ∀ turns, Repeats (fun state => state.rewired
            ⟨bytes.toArray, min (streamed.times .input turns) bytes.length, atEnd⟩ state.writer)
            turns streamed buffered := by
  refine ⟨readsInOrder_of_create created, fun other n k createdToo agree turns few =>
    repeats_of_agree created createdToo agree few, ?_⟩
  intro bytes atEnd streamed buffered streams buffers
  have same (j : Nat) : Reader.answer j (StreamReader.mk bytes atEnd) = answerAt bytes atEnd j ∧
      Reader.answer j (BufferReader.mk bytes.toArray 0 atEnd) = answerAt bytes atEnd j :=
    ⟨StreamReader.answer_eq j bytes atEnd, BufferReader.answer_eq j bytes atEnd⟩
  refine ⟨readsInOrder_of_create streams, readsInOrder_of_create buffers, same, fun turns => ?_⟩
  rw [← BufferReader.after_eq]
  exact repeats_of_agree streams buffers (fun j _ => (same j).2.trans (same j).1.symm) (Nat.le_refl _)

def scripted : Machine ScriptReader BufferWriter where
  program := { code := #[⟨.input, none⟩, ⟨.input, none⟩, ⟨.input, none⟩] }
  reader := ⟨[.ok (.int 65), .ok (.int 0)]⟩
  writer := {}
  history := some 2
  log := StepLog.empty false (some 2)

-- A stream of one byte answers twice as the script does.
theorem scripted_reads :
    create scripted.program scripted.reader scripted.writer false {} (some 2) = .ok scripted ∧
      scripted.ReadsInOrder scripted.reader ∧ scripted.times .input 2 = 2 ∧
      ∃ n : Machine StreamReader BufferWriter,
        create scripted.program ⟨[65], some (.int 0)⟩ scripted.writer false {} (some 2) = .ok n ∧
          Repeats (fun state =>
            state.rewired (Reader.after 2 ⟨[65], some (.int 0)⟩) state.writer) 2 scripted n := by
  let stream : StreamReader := ⟨[65], some (.int 0)⟩
  have created : create scripted.program scripted.reader scripted.writer false {} (some 2) =
      .ok scripted := rfl
  obtain ⟨n, createdToo⟩ : ∃ n,
      create scripted.program stream scripted.writer false {} (some 2) = .ok n := ⟨_, rfl⟩
  have count : scripted.times .input 2 = 2 := by decide +kernel
  have agree (j : Nat) (few : j < 2) :
      Reader.answer j stream = Reader.answer j scripted.reader := by
    obtain rfl | rfl : j = 0 ∨ j = 1 := by omega
    · rfl
    · rfl
  obtain ⟨reads, repeats, _⟩ := run_reads created
  have same := repeats stream n 2 createdToo agree 2 (Nat.le_of_eq count)
  rw [count] at same
  exact ⟨created, reads, count, n, createdToo, same⟩

end Machine

end TapeLang
