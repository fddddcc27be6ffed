import TapeLang.Proofs.Log.Kept
import TapeLang.Proofs.Machine.Effect
import TapeLang.Proofs.Machine.Range

/-! How a run is stopped.

An instruction that fails has been logged and has used its channel, if it has one. Everything else is
left as it was before the instruction, and the error says where that was. -/

set_option autoImplicit false

namespace TapeLang

-- Every instruction of a loaded program stands somewhere in its source.
theorem location_of_load {text filename : String} {program : Program}
    (loaded : load text filename = .ok program) {pc : Nat} {inst : Instruction}
    (found : program.code[pc]? = some inst) :
    ∃ location, program.locations[pc]? = some location := by
  obtain ⟨block, reads, code, locations, _⟩ := exists_reads_of_load loaded
  have size : program.locations.size = program.code.size := by
    have ops : (text.toList.filterMap Opcode.ofSymbol?).length = block.size := by
      rw [reads.ops_eq, ← block.map_op_code 0, List.length_map, block.length_code]
    simp [code, locations, ops]
  have inside : pc < program.locations.size := by
    rw [size]
    exact (Array.getElem?_eq_some_iff.mp found).1
  exact ⟨_, Array.getElem?_eq_getElem inside⟩

namespace Machine

variable {ρ ω : Type} [Reader ρ] [Writer ω] {m : Machine ρ ω} {pc : Int} {p : Nat}
  {inst : Instruction}

theorem turn_log {next : Machine ρ ω} (turned : m.turn? = some (.done next)) :
    ∃ entry, next.log = m.log.record entry := by
  unfold turn? at turned
  split at turned
  · cases turned
  · split at turned
    · cases turned
    · cases turned
    · rename_i inst _
      rw [step_closed_eq] at turned
      split at turned
      · cases turned
      · rename_i entry _
        -- Nothing but this entry is logged: the instruction leaves the log alone.
        have kept : (((m.recordStep entry).perform inst).next advance).Ends
            (fun next => next.log = m.log.record entry) fun _ _ => True := by
          have framed := perform_frames inst (m.recordStep entry)
          refine (framed.imp (fun _ frames => frames) fun _ _ _ => trivial).next ?_
          rintro _ ⟨_, _, pc, _, _, rfl, _⟩
          cases pc <;> trivial
        rw [Option.some.inj turned] at kept
        exact ⟨entry, kept⟩

variable {k : Nat} {last : Machine ρ ω} {capacity : Option Nat}

/-- Every turn is logged. -/
theorem Reaches.keeps (reaches : m.Reaches k last) {all : List LogEntry}
    (keeps : m.log.Keeps capacity all) :
    ∃ more, last.log.Keeps capacity more ∧ more.length = all.length + k := by
  induction reaches generalizing all with
  | refl => exact ⟨all, keeps, rfl⟩
  | turn turned _ ih =>
    obtain ⟨entry, log⟩ := turn_log turned
    obtain ⟨more, kept, length⟩ := ih (log ▸ keeps.record entry)
    exact ⟨more, kept, by rw [length, List.length_cons]; omega⟩

/-- A run that is stopped by one instruction: when and where that was, what the run leaves behind and
what its error says. -/
structure StopsAt (program : Program) (history : Option Int) (m : Machine ρ ω) (error : RunError)
    (state : Machine ρ ω) (k : Nat) (before : Machine ρ ω) (pc p : Nat) (inst : Instruction) :
    Prop where
  reaches : m.Reaches k before
  found : program.code[pc]? = some inst
  here : before.At ↑pc p
  left : ∃ entry, before.entryFor inst = .ok entry ∧
    state = { before with
      log := before.log.record entry, reader := state.reader, writer := state.writer }
  stepCount : state.log.stepCount = k + 1
  reader : state.reader =
    if inst.op = .input then (Reader.read before.reader).2 else before.reader
  writer : state.writer =
    if inst.op = .output then (Writer.write before.writer ↑(before.tape.cell p).toNat).2
    else before.writer
  place : error.pc = some ↑pc ∧ error.pointer = some ↑p
  location : ∃ location, program.locations[pc]? = some location ∧ error.location = some location
  stepIndex : error.stepIndex =
    if history = some 0 then none else some ((state.log.stepCount : Int) - 1)
  ordinary : inst.op.Told (before.tape.cell p) before.reader before.writer → error.IsOrdinary
  untold : ∀ why, inst.op.Untold (before.tape.cell p) before.reader before.writer why →
    error.reason = .internal (.unwritable why)
  bounds : error.kind = "PointerOutOfBounds" ↔ inst.op.LeavesTape p
  channel : error.kind = "IOFailure" ↔
    inst.op.ChannelFails (before.tape.cell p) before.reader before.writer ∧
      inst.op.Told (before.tape.cell p) before.reader before.writer
  cause : inst.op.Told (before.tape.cell p) before.reader before.writer →
    error.reason.cause? =
        inst.op.channelFailure? (before.tape.cell p) before.reader before.writer ∧
      error.reason.linkedCause? = error.reason.cause?
  replay : Replay m.reader m.writer (m.transfers k) before.reader before.writer
  retained : ∀ {β : Type} (kept : ω → List β), Retains kept →
    ∀ i earlier, m.Reaches i earlier → i ≤ k → kept earlier.writer <+: kept state.writer

variable {text filename : String} {program : Program} {history : Option Int} {before : Machine ρ ω}
  {pc : Nat}

omit [Reader ρ] [Writer ω] in
-- The last entry of the log is that of the instruction.
theorem At.stepIndex_attachStep (here : before.At ↑pc p) {all : List LogEntry}
    (keeps : before.log.Keeps capacity all) (valid : StepLog.capacity history = .ok capacity)
    (reason : Reason) :
    ((before.errorHere reason).attachStep (before.logged inst).log).stepIndex =
      if history = some 0 then none else some ((before.logged inst).log.stepCount - 1 : Int) := by
  obtain ⟨entry, _, index, logged⟩ := here.exists_entry inst
  have last : (before.logged inst).log.last? = if capacity = some 0 then none else some entry := by
    rw [logged]
    exact (keeps.record entry).last?
  rw [here.stepCount_logged]
  simp only [RunError.attachStep, errorHere, last, StepLog.kept_eq_zero valid]
  split
  · rfl
  · simp [index]

structure Tells (op : Opcode) (p : Nat) (cell : UInt8) (reader : ρ) (writer : ω) (reason : Reason) :
    Prop where
  ordinary : op.Told cell reader writer → reason.kind = "PointerOutOfBounds" ∨ reason.kind = "IOFailure"
  untold : ∀ why, op.Untold cell reader writer why → reason = .internal (.unwritable why)
  bounds : reason.kind = "PointerOutOfBounds" ↔ op.LeavesTape p
  channel : reason.kind = "IOFailure" ↔
    op.ChannelFails cell reader writer ∧ op.Told cell reader writer
  cause : op.Told cell reader writer →
    reason.cause? = op.channelFailure? cell reader writer ∧ reason.linkedCause? = reason.cause?

theorem tells_of_refused {op : Opcode} {cell : UInt8} {reader next : ρ} {writer after : ω}
    {reason : Reason} (refused : Refused p cell reader writer op reason next after) :
    Tells op p cell reader writer reason.told := by
  rcases refused.told_cases with ⟨told, same⟩ | ⟨why, untold, same⟩ <;> rw [same]
  · exact ⟨fun _ => refused.ordinary, fun why untold => absurd untold (told why), refused.bounds,
      refused.channel.trans (and_iff_left told).symm, fun _ => ⟨refused.cause, refused.linkedCause⟩⟩
  · have never (told : op.Told cell reader writer) : False := told why untold
    have stays : ¬ op.LeavesTape p := by
      rcases untold with ⟨rfl, _⟩ | ⟨rfl, _⟩ <;> simp [Opcode.LeavesTape]
    refine ⟨fun told => (never told).elim, fun other too => by rw [untold.unique too], ?_, ?_,
      fun told => (never told).elim⟩
    · exact iff_of_false (by simp [Reason.kind]) stays
    · exact iff_of_false (by simp [Reason.kind]) fun fails => never fails.2

theorem stopsAt_of_refused (loaded : load text filename = .ok program)
    (within : m.InRange program) (reaches : m.Reaches k before)
    (here : before.At ↑pc p) (found : program.code[pc]? = some inst)
    {reason : Reason} {reader : ρ} {writer : ω}
    (refused : Refused p (before.tape.cell p) before.reader before.writer inst.op reason reader writer)
    (valid : StepLog.capacity history = .ok capacity) (keeps : m.log.Keeps capacity []) :
    StopsAt program history m ((before.errorHere reason.told).attachStep (before.logged inst).log)
      { before.logged inst with reader, writer } k before pc p inst := by
  have linked := linked_of_load loaded
  have tells := tells_of_refused refused
  obtain ⟨same, _⟩ := within.reaches linked reaches
  obtain ⟨all, kept, length⟩ := reaches.keeps keeps
  have located (i : Nat) (state : Machine ρ ω) (reaches : m.Reaches i state) :
      ∃ pc p, state.At pc p := by
    obtain ⟨_, pc, p, here, _⟩ := within.reaches linked reaches
    exact ⟨↑pc, p, here⟩
  refine ⟨reaches, found, here, ?_, ?_, refused.reader_eq, refused.writer_eq, ?_, ?_, ?_,
    tells.ordinary, tells.untold, tells.bounds, tells.channel, tells.cause, reaches.replay located,
    ?_⟩
  · obtain ⟨entry, entered, _, logged⟩ := here.exists_entry inst
    refine ⟨entry, entered, ?_⟩
    rw [logged]
    rfl
  · show (before.logged inst).log.stepCount = k + 1
    rw [here.stepCount_logged, kept.stepCount, length, List.length_nil, Nat.zero_add]
  · exact ⟨here.counter, congrArg some here.pointer⟩
  · obtain ⟨location, stands⟩ := location_of_load loaded found
    refine ⟨location, stands, ?_⟩
    show before.here = _
    rw [Machine.here, here.counter, same, ← stands]
    rfl
  · exact here.stepIndex_attachStep kept valid reason.told
  · intro β view retains i earlier first sooner
    have rest := first.between reaches sooner
    have locatedToo (j : Nat) (state : Machine ρ ω) (more : earlier.Reaches j state) :=
      located (i + j) state (first.trans more)
    exact ((rest.replay locatedToo).retains retains).trans (refused.retains retains)

/-- Every error of a run comes from the instruction that the run is stopped at, and leaves all but the
log as it was before it; and every instruction that fails stops the run in this way. -/
theorem run_stops (loaded : load text filename = .ok program) {reader : ρ} {writer : ω}
    {verbose : Bool} (created : create program reader writer verbose {} history = .ok m) :
    (∀ fuel fault state, m.run fuel = .stopped fault state →
      ∃ (error : RunError) (k : Nat) (before : Machine ρ ω) (pc p : Nat) (inst : Instruction),
        fault = .run error ∧ StopsAt program history m error state k before pc p inst) ∧
    ∀ (k : Nat) (before : Machine ρ ω) (pc p : Nat) (inst : Instruction), m.Reaches k before →
      before.At ↑pc p → program.code[pc]? = some inst →
      (inst.op.LeavesTape p ∨
        inst.op.ChannelFails (before.tape.cell p) before.reader before.writer) →
      ∀ fuel, k < fuel → ∃ error state, m.run fuel = .stopped (.run error) state ∧
        StopsAt program history m error state k before pc p inst := by
  have linked := linked_of_load loaded
  have fresh := fresh_of_create created
  obtain ⟨capacity, valid, log⟩ := log_of_create created
  have keeps : m.log.Keeps capacity [] := log ▸ StepLog.keeps_empty verbose capacity
  have within := inRange_of_create created
  constructor
  · intro fuel fault state ends
    obtain ⟨k, before, cause, reaches, stops, rfl⟩ := fresh.run_stopped ends
    obtain ⟨pc, p, inst, here, found, reason, reader, writer, refused, rfl, rfl⟩ :=
      (within.reaches linked reaches).refused_of_stopped linked stops
    exact ⟨_, k, before, pc, p, inst, here.report_refused inst reason reader writer,
      stopsAt_of_refused loaded within reaches here found refused valid keeps⟩
  · intro k before pc p inst reaches here found fails fuel enough
    obtain ⟨reason, reader, writer, refused⟩ := exists_refused fails
    have fetched : before.program.fetch ↑pc = .instruction inst := by
      rw [(within.reaches linked reaches).1, Program.fetch_of_found found]
    refine ⟨_, _, ?_, stopsAt_of_refused loaded within reaches here found refused valid keeps⟩
    rw [fresh.run_eq, here.settle_refused fetched refused reaches enough]

-- Without anything to read, the first command is refused.
theorem echo_stops :
    ∃ (m : Machine ScriptReader BufferWriter) (error : RunError)
      (state : Machine ScriptReader BufferWriter),
      load ",[.\n,]" "echo" = .ok echo ∧ create echo {} {} true {} (some 2) = .ok m ∧
        m.run 1 = .stopped (.run error) state ∧
        StopsAt echo (some 2) m error state 0 m 0 0 ⟨.input, none⟩ := by
  let reader : ScriptReader := {}
  let writer : BufferWriter := {}
  obtain ⟨m, created⟩ : ∃ m, create echo reader writer true {} (some 2) = .ok m := ⟨_, rfl⟩
  have here := (fresh_of_create created).initial.at
  have fails : Opcode.input.ChannelFails (m.tape.cell 0) m.reader m.writer := by
    rw [(setup_of_create created).2.1]
    exact .inr ⟨rfl, .inl ⟨_, rfl⟩⟩
  obtain ⟨error, state, stopped, stopsAt⟩ := (run_stops load_echo created).2 0 m 0 0
    ⟨.input, none⟩ .refl here rfl (.inr fails) 1 Nat.zero_lt_one
  exact ⟨m, error, state, load_echo, created, stopped, stopsAt⟩

/-- A first command that moves off the tape and one that reads what is no cell, neither of which stops
the run by an error of its kind. -/
theorem first_stops_otherwise :
    (∃ (program : Program) (m : Machine ScriptReader BufferWriter), load "<" = .ok program ∧
      create program {} {} false {} = .ok m ∧ program.code[0]? = some ⟨.moveLeft, none⟩ ∧
        ∀ fuel error state,
          ({ m with history := some Failure.wordBound } : Machine _ _).run fuel ≠
            .stopped (.run error) state) ∧
    ∃ (program : Program) (m : Machine ScriptReader BufferWriter) (error : RunError)
      (state : Machine ScriptReader BufferWriter), load "," = .ok program ∧
      create program ⟨[.ok (.int (10 ^ Decimal.maxDigits))]⟩ {} false {} = .ok m ∧
        ¬ (Value.int (10 ^ Decimal.maxDigits)).IsCell ∧
        m.run 1 = .stopped (.run error) state ∧ error.kind ≠ "IOFailure" ∧
        error.reason.cause? ≠ none := by
  constructor
  · obtain ⟨program, m, loaded, created, found, unstarted⟩ := exists_unstarted
    refine ⟨program, m, loaded, created, found, fun fuel error state stopped => ?_⟩
    obtain ⟨_, failed⟩ := unstarted fuel
    rw [failed] at stopped
    cases stopped
  · obtain ⟨program, m, error, state, loaded, created, noCell, stopped, reason, _⟩ :=
      exists_unwritable Decimal.not_writable_pow
    refine ⟨program, m, error, state, loaded, created, noCell, stopped, ?_, ?_⟩
    · rw [RunError.kind, reason]
      decide
    · rw [reason]
      exact nofun

end Machine

end TapeLang
