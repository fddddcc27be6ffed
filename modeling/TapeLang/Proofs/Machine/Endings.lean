import TapeLang.Proofs.Machine.Places
import TapeLang.Proofs.Machine.Visits

/-! How runs end.

Nothing has to be known about the targets of a program. Wherever its jumps go, the pointer stays on
the tape, and a run without hooks ends in one of six ways, which shows in the state at the top of its
loop. A counter below zero counts from the end of the program. -/

set_option autoImplicit false

namespace TapeLang

inductive Ending where
  | finished
  /-- A move leaves the tape. -/
  | offTape
  /-- The reader or the writer fails. -/
  | channel
  /-- The reader or the writer fails with something that cannot be put into words. -/
  | wordless
  /-- The counter is before the first instruction, counted from either end. -/
  | outside
  /-- A jump without a target is taken. -/
  | untargeted
  deriving DecidableEq, Repr

namespace Program

variable {program : Program} {index : Int}

theorem fetch_eq_finished : program.fetch index = .finished ↔ (program.size : Int) ≤ index := by
  unfold fetch
  split
  · exact iff_of_true rfl ‹_›
  · split <;> exact iff_of_false nofun ‹_›

theorem fetch_outside (before : index < -↑program.size) : program.fetch index = .outside := by
  have notFinished : ¬ (program.size : Int) ≤ index := by omega
  have notBelow : ¬ 0 ≤ index := by omega
  have notTail : ¬ 0 ≤ index + program.size := by omega
  simp only [fetch, if_neg notFinished, get?, if_neg notBelow, if_neg notTail]

-- The last instructions have negative indices too.
theorem fetch_tail (start : -↑program.size ≤ index) (negative : index < 0) :
    ∃ inst, program.code[(index + program.size).toNat]? = some inst ∧
      program.fetch index = .instruction inst := by
  have inside : (index + program.size).toNat < program.size := by omega
  obtain ⟨inst, found⟩ := found_of_lt inside
  have notFinished : ¬ (program.size : Int) ≤ index := by omega
  have notBelow : ¬ 0 ≤ index := by omega
  have tail : 0 ≤ index + program.size := by omega
  refine ⟨inst, found, ?_⟩
  simp only [fetch, if_neg notFinished, get?, if_neg notBelow, if_pos tail, found]

theorem fetch_eq_outside : program.fetch index = .outside ↔ index < -↑program.size := by
  refine ⟨fun fetched => ?_, fetch_outside⟩
  by_contra notBefore
  by_cases negative : index < 0
  · obtain ⟨inst, _, tail⟩ := fetch_tail (Int.not_lt.mp notBefore) negative
    rw [tail] at fetched
    cases fetched
  · by_cases finished : (program.size : Int) ≤ index
    · rw [fetch_eq_finished.mpr finished] at fetched
      cases fetched
    · obtain ⟨k, rfl⟩ := Int.eq_ofNat_of_zero_le (Int.not_lt.mp negative)
      obtain ⟨inst, found⟩ := found_of_lt (show k < program.size by omega)
      rw [fetch_of_found found] at fetched
      cases fetched

theorem locate_negative (negative : index < 0) : program.locate index = none :=
  if_neg (Int.not_le.mpr negative)

end Program

namespace StepLog

theorem mem_entries_record {log : StepLog} {entry other : LogEntry}
    (kept : other ∈ (log.record entry).entries.toList) :
    other = entry ∨ other ∈ log.entries.toList := by
  have pushed : (log.record entry).entries = log.entries.push entry := rfl
  rw [pushed, Recent.toList, List.mem_reverse, Recent.newestFirst_push] at kept
  rw [Recent.toList, List.mem_reverse]
  split at kept
  · exact List.mem_cons.mp kept
  · exact List.mem_cons.mp (List.mem_of_mem_take kept)

end StepLog

namespace Machine

variable {ρ ω : Type}

structure Meets (m : Machine ρ ω) (pc : Int) (p : Nat) (inst : Instruction) : Prop where
  here : m.At pc p
  fetched : m.program.fetch pc = .instruction inst

end Machine

/-- What an ending looks like from outside. -/
def Ending.Shows {ρ ω : Type} : Ending → Outcome Fault (Machine ρ ω) → Prop
  | finished, .done state => ∃ pc, state.pc = some pc ∧ (state.program.size : Int) ≤ pc
  | offTape, .stopped (.run error) _ => error.kind = "PointerOutOfBounds"
  | channel, .stopped (.run error) _ => error.kind = "IOFailure"
  | wordless, .stopped (.run error) _ => ∃ why, error.reason = .internal (.unwritable why)
  | outside, .stopped (.run error) _ => error.kind = "Internal" ∧
      ∃ cause, error.reason.cause? = some cause ∧ cause.name = "IndexError"
  | untargeted, .stopped (.failure failure) _ => failure.name = "TypeError"
  | _, _ => False

/-- The states at the top of the loop from which a run ends in a certain way. -/
def Ending.Due {ρ ω : Type} [Reader ρ] [Writer ω] (last : Machine ρ ω) : Ending → Prop
  | finished => ∃ pc, last.pc = some pc ∧ (last.program.size : Int) ≤ pc
  | offTape => ∃ pc p inst, last.Meets pc p inst ∧ inst.op.LeavesTape p
  | channel => ∃ pc p inst, last.Meets pc p inst ∧
      inst.op.ChannelFails (last.tape.cell p) last.reader last.writer ∧
      inst.op.Told (last.tape.cell p) last.reader last.writer
  | wordless => ∃ pc p inst, last.Meets pc p inst ∧
      ∃ why, inst.op.Untold (last.tape.cell p) last.reader last.writer why
  | outside => ∃ pc, last.pc = some pc ∧ pc < -↑last.program.size
  | untargeted => ∃ pc p inst, last.Meets pc p inst ∧ inst.Jumps (last.tape.cell p) ∧
      inst.target = none

-- Whether an error stops the run, and the kind of the error, tell the endings apart.
theorem Ending.Shows.unique {ρ ω : Type} {ending other : Ending}
    {outcome : Outcome Fault (Machine ρ ω)} (shows : ending.Shows outcome)
    (too : other.Shows outcome) : ending = other := by
  rcases outcome with state | ⟨error | failure, state⟩ | _
  · cases ending <;> cases other <;> first | rfl | exact absurd shows id | exact absurd too id
  · have kinds {why : Unwritable} (wordless : error.reason = .internal (.unwritable why)) :
        error.kind = "Internal" ∧
          ¬ ∃ cause, error.reason.cause? = some cause ∧ cause.name = "IndexError" := by
      rw [RunError.kind, wordless]
      refine ⟨rfl, ?_⟩
      rintro ⟨_, ⟨⟩, named⟩
      cases why <;> exact absurd named (by decide)
    cases ending <;> simp only [Shows] at shows <;> cases other <;> simp only [Shows] at too <;>
      first
      | rfl
      | (obtain ⟨why, wordless⟩ := shows
         have := kinds wordless
         simp_all)
      | (obtain ⟨why, wordless⟩ := too
         have := kinds wordless
         simp_all)
      | simp_all
  · cases ending <;> cases other <;> first | rfl | exact absurd shows id | exact absurd too id
  · cases ending <;> exact absurd shows id

namespace Machine

variable {ρ ω : Type} [Reader ρ] [Writer ω] {m : Machine ρ ω} {pc : Int} {p : Nat}
  {inst : Instruction}

theorem At.perform_taken (here : m.At pc p) (jumps : inst.Jumps (m.tape.cell p)) :
    (m.perform inst).next advance = m.jump inst.target := by
  rw [here.perform_advance]
  rcases jumps with ⟨op, zero⟩ | ⟨op, nonZero⟩
  · simp only [op, if_pos zero]
  · simp only [op, if_neg nonZero]

theorem At.perform_untaken (here : m.At pc p) (isJump : inst.op.IsJump)
    (stays : ¬ inst.Jumps (m.tape.cell p)) : (m.perform inst).next advance = .done (m.pass pc) := by
  rw [here.perform_advance]
  rcases isJump with op | op
  · have nonZero : m.tape.cell p ≠ 0 := fun zero => stays (.inl ⟨op, zero⟩)
    simp only [op, if_neg nonZero]
  · have zero : m.tape.cell p = 0 := by
      by_contra nonZero
      exact stays (.inr ⟨op, nonZero⟩)
    simp only [op, if_pos zero]

theorem Meets.turn_untargeted (meets : m.Meets pc p inst) (jumps : inst.Jumps (m.tape.cell p))
    (untargeted : inst.target = none) :
    m.turn? = some (.stopped (.failure .noCounter) { m.logged inst with pc := none }) := by
  rw [meets.here.turn_eq meets.fetched, (meets.here.logged inst).perform_taken (by simpa),
    untargeted]
  rfl

/-- An instruction stops the loop by being refused, or because it is a jump without a target. -/
theorem Meets.stopped_cases (meets : m.Meets pc p inst) {fault : Fault} {state : Machine ρ ω}
    (stops : m.turn? = some (.stopped fault state)) :
    (∃ reason reader writer,
      Refused p (m.tape.cell p) m.reader m.writer inst.op reason reader writer ∧
        fault = .ofError (m.errorHere reason) ∧ state = { m.logged inst with reader, writer }) ∨
    inst.Jumps (m.tape.cell p) ∧ inst.target = none ∧ fault = .failure .noCounter ∧
      state = { m.logged inst with pc := none } := by
  have logged := meets.here.logged inst
  have ends := Option.some.inj ((meets.here.turn_eq meets.fetched).symm.trans stops)
  by_cases isJump : inst.op.IsJump
  · right
    by_cases jumps : inst.Jumps (m.tape.cell p)
    · rw [logged.perform_taken (by simpa)] at ends
      cases target : inst.target with
      | none =>
        rw [target] at ends
        cases ends
        exact ⟨jumps, rfl, rfl, rfl⟩
      | some target =>
        rw [target] at ends
        cases ends
    · rw [logged.perform_untaken isJump (by simpa)] at ends
      cases ends
  · left
    obtain ⟨reason, reader, writer, refused, error, left⟩ :=
      logged.refused_of_stopped (absurd · isJump) ends
    rw [errorHere_logged] at error
    exact ⟨reason, reader, writer, by simpa using refused, error, left⟩

/-! ## Endings of the loop -/

theorem At.due_of_stopped (here : m.At pc p) {fault : Fault} {state : Machine ρ ω}
    (stops : m.turn? = some (.stopped fault state)) : ∃ ending : Ending, ending.Due m := by
  cases fetched : m.program.fetch pc with
  | finished => simp [turn?, here.counter, fetched] at stops
  | outside => exact ⟨.outside, pc, here.counter, Program.fetch_eq_outside.mp fetched⟩
  | instruction inst =>
    have meets : m.Meets pc p inst := ⟨here, fetched⟩
    rcases meets.stopped_cases stops with ⟨_, _, _, refused, _⟩ | ⟨jumps, untargeted, _⟩
    · rcases refused.ordinary with bounds | channel
      · exact ⟨.offTape, pc, p, inst, meets, refused.bounds.mp bounds⟩
      · rcases refused.told_cases with ⟨told, _⟩ | ⟨why, untold, _⟩
        · exact ⟨.channel, pc, p, inst, meets, refused.channel.mp channel, told⟩
        · exact ⟨.wordless, pc, p, inst, meets, why, untold⟩
    · exact ⟨.untargeted, pc, p, inst, meets, jumps, untargeted⟩

theorem At.due_of_finished (here : m.At pc p) (finished : m.turn? = none) :
    Ending.finished.Due m := by
  simp only [turn?, here.counter] at finished
  split at finished
  · exact ⟨pc, here.counter, Program.fetch_eq_finished.mp ‹_›⟩
  · cases finished
  · cases finished

/-- A loop that comes to a counter before the program is stopped there by an internal error. -/
theorem settle_outside (counter : m.pc = some pc) (before : pc < -↑m.program.size)
    {start : Machine ρ ω} {k fuel : Nat} (reaches : start.Reaches k m) (enough : k < fuel) :
    settle (execute .closed fuel start) = .stopped
      (.run ((m.errorHere (.internal (.instructionIndex pc))).attachStep m.log)) m := by
  have stops : m.turn? = some (.stopped (.failure (.instructionIndex pc)) m) := by
    simp only [turn?, counter, Program.fetch_outside before]
  rw [reaches.execute_stopped stops enough, settle, report_of_message counter rfl]

-- Beyond that state the loop takes no further turn, and what it ends with shows why.
theorem shows_of_due {ending : Ending} (due : ending.Due m) {k fuel : Nat} {start : Machine ρ ω}
    (reaches : start.Reaches k m) (enough : k < fuel) :
    ending.Shows (settle (execute .closed fuel start)) := by
  have refusal {pc : Int} {p : Nat} {inst : Instruction} (meets : m.Meets pc p inst)
      (fails : inst.op.LeavesTape p ∨ inst.op.ChannelFails (m.tape.cell p) m.reader m.writer) :
      ∃ reason reader writer,
        Refused p (m.tape.cell p) m.reader m.writer inst.op reason reader writer ∧
          settle (execute .closed fuel start) =
            .stopped (.run ((m.errorHere reason.told).attachStep (m.logged inst).log))
              { m.logged inst with reader, writer } := by
    obtain ⟨reason, reader, writer, refused⟩ := exists_refused fails
    exact ⟨reason, reader, writer, refused,
      meets.here.settle_refused meets.fetched refused reaches enough⟩
  cases ending with
  | finished =>
    obtain ⟨pc, counter, size⟩ := due
    have finished : m.turn? = none := by
      simp only [turn?, counter, Program.fetch_eq_finished.mpr size]
    rw [reaches.execute_finished finished enough]
    exact ⟨pc, counter, size⟩
  | offTape =>
    obtain ⟨pc, p, inst, meets, leaves⟩ := due
    obtain ⟨reason, _, _, refused, ends⟩ := refusal meets (.inl leaves)
    rw [ends]
    exact (tells_of_refused refused).bounds.mpr leaves
  | channel =>
    obtain ⟨pc, p, inst, meets, fails, told⟩ := due
    obtain ⟨reason, _, _, refused, ends⟩ := refusal meets (.inr fails)
    rw [ends]
    exact (tells_of_refused refused).channel.mpr ⟨fails, told⟩
  | wordless =>
    obtain ⟨pc, p, inst, meets, why, untold⟩ := due
    obtain ⟨reason, _, _, refused, ends⟩ := refusal meets (.inr untold.channelFails)
    rw [ends]
    exact ⟨why, (tells_of_refused refused).untold why untold⟩
  | outside =>
    obtain ⟨pc, counter, before⟩ := due
    rw [settle_outside counter before reaches enough]
    exact ⟨rfl, _, rfl, rfl⟩
  | untargeted =>
    obtain ⟨pc, p, inst, meets, jumps, untargeted⟩ := due
    rw [reaches.execute_stopped (meets.turn_untargeted jumps untargeted) enough, settle,
      report_of_lost rfl]
    rfl

theorem Fresh.shows_of_due (fresh : m.Fresh) {ending : Ending} {k fuel : Nat}
    {last : Machine ρ ω} (reaches : m.Reaches k last) (due : ending.Due last) (enough : k < fuel) :
    ending.Shows (m.run fuel) := by
  rw [fresh.run_eq]
  exact Machine.shows_of_due due reaches enough

theorem Fresh.exists_due (fresh : m.Fresh) {fuel : Nat} (ends : m.run fuel ≠ .exhausted) :
    ∃ ending k last, k < fuel ∧ m.Reaches k last ∧ Ending.Due last ending := by
  obtain ⟨k, last, within, reaches, final⟩ := reaches_of_execute (fresh.run_ends.mp ends)
  obtain ⟨pc, p, here⟩ := fresh.initial.at.located reaches
  rcases final with finished | ⟨fault, state, stops⟩
  · exact ⟨.finished, k, last, within, reaches, here.due_of_finished finished⟩
  · obtain ⟨ending, due⟩ := here.due_of_stopped stops
    exact ⟨ending, k, last, within, reaches, due⟩

/-! ## Places -/

-- What a turn that is stopped leaves behind is still on the tape.
theorem At.stopped_pointer (here : m.At pc p) {fault : Fault} {state : Machine ρ ω}
    (stops : m.turn? = some (.stopped fault state)) : state.pointer = ↑p := by
  cases fetched : m.program.fetch pc with
  | finished => simp [turn?, here.counter, fetched] at stops
  | outside =>
    simp only [turn?, here.counter, fetched] at stops
    cases stops
    exact here.pointer
  | instruction inst =>
    rcases Meets.stopped_cases ⟨here, fetched⟩ stops with
      ⟨_, _, _, _, _, rfl⟩ | ⟨_, _, _, rfl⟩ <;> exact (here.logged inst).pointer

theorem At.afterSteps_pointer (here : m.At pc p) {k : Nat} {state : Machine ρ ω}
    (after : m.AfterSteps k state) : ∃ q : Nat, state.pointer = ↑q ∧ q < Tape.size := by
  cases after with
  | top reaches =>
    obtain ⟨_, q, there⟩ := here.located reaches
    exact ⟨q, there.pointer, there.inside⟩
  | stopped reaches stops =>
    obtain ⟨_, q, there⟩ := here.located reaches
    exact ⟨q, there.stopped_pointer stops, there.inside⟩

def LogPlaced (program : Program) (m : Machine ρ ω) : Prop :=
  ∀ entry ∈ m.log.entries.toList, entry.location = program.locate entry.pc

theorem At.placed_turn (here : m.At pc p) (placed : m.LogPlaced m.program)
    {outcome : Outcome Fault (Machine ρ ω)} (turned : m.turn? = some outcome) :
    outcome.Leaves (LogPlaced m.program) := by
  cases fetched : m.program.fetch pc with
  | finished => simp [turn?, here.counter, fetched] at turned
  | outside =>
    simp only [turn?, here.counter, fetched] at turned
    cases turned
    exact placed
  | instruction inst =>
    obtain ⟨added, entered, _, logged⟩ := here.exists_entry inst
    rw [here.entryFor_eq, Except.ok.injEq] at entered
    refine (here.log_turn fetched turned).imp fun state log entry kept => ?_
    rw [log, logged] at kept
    rcases StepLog.mem_entries_record kept with rfl | earlier
    · rw [← entered]
    · exact placed entry earlier

theorem At.placed_reaches (here : m.At pc p) (placed : m.LogPlaced m.program) {k : Nat}
    {last : Machine ρ ω} (reaches : m.Reaches k last) : last.LogPlaced m.program := by
  induction reaches generalizing pc p with
  | refl => exact placed
  | @turn m next last k turned _ ih =>
    obtain ⟨_, _, there⟩ := here.turn_at turned
    have same : next.program = m.program := (turn?_setup turned : m.SameSetup next).program
    have kept : next.LogPlaced m.program := here.placed_turn placed turned
    rw [← same] at kept ⊢
    exact ih there kept

theorem At.placed_afterSteps (here : m.At pc p) (placed : m.LogPlaced m.program) {k : Nat}
    {state : Machine ρ ω} (after : m.AfterSteps k state) : state.LogPlaced m.program := by
  cases after with
  | top reaches => exact here.placed_reaches placed reaches
  | @stopped k before _ _ reaches stops =>
    obtain ⟨_, _, there⟩ := here.located reaches
    have kept := here.placed_reaches placed reaches
    rw [← reaches.setup.program] at kept ⊢
    exact there.placed_turn kept stops

/-- The place of an error is that of the counter it names. -/
theorem Fresh.error_placed (fresh : m.Fresh) {fuel : Nat} {error : RunError} {state : Machine ρ ω}
    (ends : m.run fuel = .stopped (.run error) state) :
    error.location = error.pc.bind m.program.locate := by
  obtain ⟨k, last, cause, reaches, stops, reported⟩ := fresh.run_stopped ends
  obtain ⟨pc, p, here⟩ := fresh.initial.at.located reaches
  have same := reaches.setup.program
  cases cause with
  | failure failure =>
    have kept : state.program = last.program := (turn?_setup stops : last.SameSetup state).program
    simp only [report] at reported
    rcases state.refuse_cases (.internal failure) with ⟨_, told⟩ | ⟨_, _, untold⟩ | ⟨_, lost⟩
    · rw [told] at reported
      cases reported
      show state.here = _
      rw [Machine.here, kept, same]
      rfl
    · rw [untold] at reported
      cases reported
    · rw [lost] at reported
      cases reported
  | run raised =>
    cases reported
    cases fetched : last.program.fetch pc with
    | finished | outside => simp [turn?, here.counter, fetched] at stops
    | instruction inst =>
      rcases Meets.stopped_cases ⟨here, fetched⟩ stops with ⟨_, _, _, _, same', _⟩ | ⟨_, _, no, _⟩
      · rcases Fault.ofError_cases (last.errorHere _) with told | ⟨_, _, untold⟩
        · rw [told] at same'
          cases same'
          show last.here = _
          rw [Machine.here, same]
          rfl
        · rw [untold] at same'
          cases same'
      · cases no

/-! ## Counters -/

-- Unless it jumps, a turn goes on with the next instruction.
theorem Meets.turn_counter (meets : m.Meets pc p inst) {next : Machine ρ ω}
    (turned : m.turn? = some (.done next)) :
    (inst.Jumps (m.tape.cell p) → next.pc = inst.target.map (· + 1)) ∧
      (¬ inst.Jumps (m.tape.cell p) → next.pc = some (pc + 1)) := by
  have logged := meets.here.logged inst
  have taken := Option.some.inj ((meets.here.turn_eq meets.fetched).symm.trans turned)
  constructor
  · intro jumps
    rw [logged.perform_taken (by simpa)] at taken
    exact (jump_eq_done taken).1.symm
  · intro stays
    by_cases isJump : inst.op.IsJump
    · rw [logged.perform_untaken isJump (by simpa)] at taken
      cases taken
      rfl
    · have effect := perform_effect inst (m.logged inst)
      cases performed : (m.logged inst).perform inst with
      | done after =>
        rw [performed] at effect taken
        obtain ⟨_, _, counter, _, _, rfl, _, same | ⟨jumped, _⟩⟩ := effect
        · rw [logged.counter] at same
          subst same
          cases taken
          rfl
        · exact absurd jumped isJump
      | stopped | exhausted =>
        rw [performed] at taken
        cases taken

/-- Without a jump the counter goes up by one at every turn, also from below zero. -/
theorem At.climbs (here : m.At pc p) {k : Nat} {last : Machine ρ ω} (reaches : m.Reaches k last)
    (straight : ∀ i < k, ∀ state, m.Reaches i state → ∀ index q inst, state.Meets index q inst →
      ¬ inst.Jumps (state.tape.cell q)) : last.pc = some (pc + k) := by
  induction k generalizing last with
  | zero =>
    cases reaches
    simpa using here.counter
  | succ k ih =>
    obtain ⟨before, reached, turned⟩ := reaches.last_turn
    have counter := ih reached fun i sooner => straight i (Nat.lt_succ_of_lt sooner)
    obtain ⟨index, q, there⟩ := here.located reached
    rw [there.counter, Option.some.injEq] at counter
    subst counter
    cases fetched : before.program.fetch (pc + k) with
    | finished | outside => simp [turn?, there.counter, fetched] at turned
    | instruction inst =>
      have meets : before.Meets (pc + k) q inst := ⟨there, fetched⟩
      rw [(meets.turn_counter turned).2 (straight k (Nat.lt_succ_self k) before reached _ _ _ meets)]
      simp only [Option.some.injEq]
      omega

/-- A turn from a counter that counts from the end of the program. -/
structure TurnsInTail (program : Program) (m : Machine ρ ω) (pc : Int) (p : Nat)
    (inst : Instruction) : Prop where
  found : program.code[(pc + program.size).toNat]? = some inst
  meets : m.Meets pc p inst
  logged : ∃ entry : LogEntry, entry.pc = pc ∧ entry.op = inst.op ∧ entry.location = none ∧
    ∀ outcome, m.turn? = some outcome →
      outcome.Leaves fun state => state.log = m.log.record entry
  jumps : ∀ next, m.turn? = some (.done next) → inst.Jumps (m.tape.cell p) →
    next.pc = inst.target.map (· + 1)
  passes : ∀ next, m.turn? = some (.done next) → ¬ inst.Jumps (m.tape.cell p) →
    next.pc = some (pc + 1)

theorem At.turnsInTail (here : m.At pc p) (start : -↑m.program.size ≤ pc) (negative : pc < 0) :
    ∃ inst, m.TurnsInTail m.program pc p inst := by
  obtain ⟨inst, found, fetched⟩ := Program.fetch_tail start negative
  have meets : m.Meets pc p inst := ⟨here, fetched⟩
  obtain ⟨entry, entered, _, logged⟩ := here.exists_entry inst
  have nowhere : m.program.locate pc = none := Program.locate_negative negative
  rw [here.entryFor_eq, Except.ok.injEq, nowhere] at entered
  refine ⟨inst, found, meets, ⟨entry, ?_, ?_, ?_, fun outcome turned => ?_⟩,
    fun next turned => (meets.turn_counter turned).1,
    fun next turned => (meets.turn_counter turned).2⟩
  · rw [← entered]
  · rw [← entered]
  · rw [← entered]
  · refine (here.log_turn fetched turned).imp fun state log => ?_
    rw [log, logged]
    rfl

/-! ## Any program -/

/-- What a run without hooks can come to, whatever its program is. -/
structure EndsOneWay (program : Program) (m : Machine ρ ω) : Prop where
  counter : ∀ k state, m.Reaches k state → ∃ pc, state.pc = some pc
  pointer : ∀ k state, m.AfterSteps k state →
    ∃ p : Nat, state.pointer = ↑p ∧ p < Tape.size ∧ state.cell? = some (state.tape.cell p)
  cells : ∀ k state, m.AfterSteps k state →
    state.tape.cells.size = Tape.size ∧ ∀ cell ∈ state.tape.cells, cell.toNat ≤ 255
  leaves : ∀ fuel, (m.run fuel).Leaves fun state => ∃ k, m.AfterSteps k state
  oneWay : ∀ fuel, m.run fuel ≠ .exhausted → ∃! ending : Ending, ending.Shows (m.run fuel)
  due : ∀ (ending : Ending) fuel, ending.Shows (m.run fuel) ↔
    ∃ k last, k < fuel ∧ m.Reaches k last ∧ ending.Due last
  tail : ∀ k state pc, m.Reaches k state → state.pc = some pc → -↑program.size ≤ pc → pc < 0 →
    ∃ p inst, state.TurnsInTail program pc p inst
  climbs : ∀ k state pc, m.Reaches k state → state.pc = some pc → ∀ i last,
    state.Reaches i last →
    (∀ j < i, ∀ between, state.Reaches j between → ∀ index p inst, between.Meets index p inst →
      ¬ inst.Jumps (between.tape.cell p)) → last.pc = some (pc + i)
  entries : ∀ k state, m.AfterSteps k state → ∀ entry ∈ state.log.entries.toList,
    entry.pc < 0 → entry.location = none
  errors : ∀ fuel error state, m.run fuel = .stopped (.run error) state →
    ∀ pc, error.pc = some pc → pc < 0 → error.location = none

/-- Every run of any program, if it ends at all, ends in exactly one way, and in that way exactly if
it gets to a state from which it is due. -/
theorem run_ends_one_way {program : Program} {reader : ρ} {writer : ω} {verbose : Bool}
    {history : Option Int}
    (created : create program reader writer verbose {} history = .ok m) :
    m.EndsOneWay program := by
  have fresh := fresh_of_create created
  have start := fresh.initial.at
  obtain rfl := (setup_of_create created).1
  obtain ⟨capacity, _, log⟩ := log_of_create created
  have placed : m.LogPlaced m.program := by
    intro entry kept
    rw [log, Recent.toList, List.mem_reverse, (StepLog.keeps_empty verbose capacity).entries] at kept
    cases capacity <;> simp [clip] at kept
  have shown {fuel : Nat} (ends : m.run fuel ≠ .exhausted) :
      ∃ ending k last, k < fuel ∧ m.Reaches k last ∧ Ending.Due last ending ∧
        ending.Shows (m.run fuel) := by
    obtain ⟨ending, k, last, within, reaches, due⟩ := fresh.exists_due ends
    exact ⟨ending, k, last, within, reaches, due, fresh.shows_of_due reaches due within⟩
  refine ⟨?_, ?_, ?_, fresh.run_afterSteps, ?_, ?_, ?_, ?_, ?_, ?_⟩
  · intro k state reaches
    obtain ⟨pc, _, here⟩ := start.located reaches
    exact ⟨pc, here.counter⟩
  · intro k state after
    obtain ⟨p, pointer, inside⟩ := start.afterSteps_pointer after
    refine ⟨p, pointer, inside, ?_⟩
    rw [cell?, Tape.get?, pointer, Tape.position?_natCast inside]
    rfl
  · intro k state _
    exact ⟨state.tape.size_cells, fun cell _ => Nat.le_of_lt_succ cell.toNat_lt⟩
  · intro fuel ends
    obtain ⟨ending, _, _, _, _, _, shows⟩ := shown ends
    exact ⟨ending, shows, fun other too => too.unique shows⟩
  · intro ending fuel
    constructor
    · intro shows
      have ends : m.run fuel ≠ .exhausted := by
        intro exhausted
        rw [exhausted] at shows
        cases ending <;> exact shows
      obtain ⟨other, k, last, within, reaches, due, too⟩ := shown ends
      exact ⟨k, last, within, reaches, too.unique shows ▸ due⟩
    · rintro ⟨k, last, within, reaches, due⟩
      exact fresh.shows_of_due reaches due within
  · intro k state pc reaches counter back negative
    obtain ⟨other, p, here⟩ := start.located reaches
    obtain rfl := Option.some.inj (here.counter.symm.trans counter)
    rw [← reaches.setup.program] at back ⊢
    exact ⟨p, here.turnsInTail back negative⟩
  · intro k state pc reaches counter i last further straight
    obtain ⟨other, p, here⟩ := start.located reaches
    obtain rfl := Option.some.inj (here.counter.symm.trans counter)
    exact here.climbs further straight
  · intro k state after entry kept negative
    rw [start.placed_afterSteps placed after entry kept, Program.locate_negative negative]
  · intro fuel error state ends pc counter negative
    rw [fresh.error_placed ends, counter]
    exact Program.locate_negative negative

/-- A jump to the last instruction, which is a jump without a target. -/
def backward : Program where
  code := #[⟨.jumpIfZero, some (-2)⟩, ⟨.jumpIfZero, none⟩]

theorem backward_ends_one_way :
    ∃ m : Machine ScriptReader BufferWriter,
      create backward {} {} true {} (some 4) = .ok m ∧ m.EndsOneWay backward ∧
        Ending.untargeted.Shows (m.run 2) := by
  let reader : ScriptReader := {}
  let writer : BufferWriter := {}
  obtain ⟨m, created⟩ : ∃ m, create backward reader writer true {} (some 4) = .ok m := ⟨_, rfl⟩
  have ends := run_ends_one_way created
  have initial := (fresh_of_create created).initial
  have program : m.program = backward := (setup_of_create created).1
  have zero : m.tape.cell 0 = 0 := by
    rw [initial.tape]
    simp [Tape.blank, Tape.cell]
  -- The target -2 leads to -1, which is the last instruction.
  have first : m.Meets 0 0 ⟨.jumpIfZero, some (-2)⟩ := ⟨initial.at, by rw [program]; rfl⟩
  have turned : m.turn? = some (.done ((m.logged ⟨.jumpIfZero, some (-2)⟩).pass (-2))) := by
    rw [first.here.turn_eq first.fetched,
      (first.here.logged _).perform_taken (.inl ⟨rfl, by simpa using zero⟩)]
    rfl
  have second : ((m.logged ⟨.jumpIfZero, some (-2)⟩).pass (-2)).Meets (-1) 0 ⟨.jumpIfZero, none⟩ := by
    refine ⟨⟨rfl, (first.here.logged _).pointer, first.here.inside⟩, ?_⟩
    show (m.logged _).program.fetch (-1) = _
    rw [program_logged, program]
    rfl
  refine ⟨m, created, ends, (ends.due .untargeted 2).mpr ⟨1, _, by decide, .one turned, ?_⟩⟩
  exact ⟨-1, 0, _, second, .inl ⟨rfl, by simpa [pass] using zero⟩, rfl⟩

/-- A run that does not start fails, though it has no jump, and a run may end with an internal error that
is not about its counter. -/
theorem exists_other_endings :
    (∃ (program : Program) (m : Machine ScriptReader BufferWriter),
      create program {} {} false {} = .ok m ∧ (∀ inst ∈ program.code, ¬ inst.op.IsJump) ∧
        ∀ fuel, ∃ failure state,
          ({ m with history := some Failure.wordBound } : Machine _ _).run fuel =
            .stopped (.failure failure) state ∧ failure.name = "OverflowError") ∧
    ∃ (program : Program) (m : Machine ScriptReader BufferWriter) (error : RunError)
      (state : Machine ScriptReader BufferWriter) (cause : Failure),
      create program ⟨[.ok (.int (10 ^ Decimal.maxDigits))]⟩ {} false {} = .ok m ∧
        m.run 1 = .stopped (.run error) state ∧ error.kind = "Internal" ∧ error.pc = some 0 ∧
        error.reason.cause? = some cause ∧ cause.name = "ValueError" := by
  constructor
  · refine ⟨{ code := #[⟨.moveLeft, none⟩] }, _, rfl, ?_, fun fuel => ⟨_, _, run_of_history rfl fuel, rfl⟩⟩
    simp [Opcode.IsJump]
  · obtain ⟨program, m, error, state, _, created, _, stopped, reason, counter⟩ :=
      exists_unwritable Decimal.not_writable_pow
    exact ⟨program, m, error, state, .unwritable .tooManyDigits, created, stopped,
      congrArg Reason.kind reason, counter, congrArg Reason.cause? reason, rfl⟩

/-- A jump to before the program leaves an error with the counter that it leads to. -/
theorem exists_stopped_before {n : Int} (before : n < -1) :
    ∃ (m : Machine ScriptReader BufferWriter) (error : RunError)
      (state : Machine ScriptReader BufferWriter),
      create { code := #[⟨.jumpIfZero, some (n - 1)⟩] } {} {} false {} = .ok m ∧
        m.run 2 = .stopped (.run error) state ∧ error.pc = some n := by
  let inst : Instruction := ⟨.jumpIfZero, some (n - 1)⟩
  let reader : ScriptReader := {}
  let writer : BufferWriter := {}
  obtain ⟨m, created⟩ : ∃ m, create { code := #[inst] } reader writer false {} = .ok m := ⟨_, rfl⟩
  have fresh := fresh_of_create created
  have program : m.program = { code := #[inst] } := (setup_of_create created).1
  have zero : m.tape.cell 0 = 0 := by
    rw [fresh.initial.tape]
    simp [Tape.blank, Tape.cell]
  have first : m.Meets 0 0 inst := ⟨fresh.initial.at, by rw [program]; rfl⟩
  have turned : m.turn? = some (.done ((m.logged inst).pass (n - 1))) := by
    rw [first.here.turn_eq first.fetched,
      (first.here.logged _).perform_taken (.inl ⟨rfl, by simpa using zero⟩)]
    rfl
  have counter : ((m.logged inst).pass (n - 1)).pc = some n := congrArg some (Int.sub_add_cancel n 1)
  have size : ((m.logged inst).pass (n - 1)).program.size = 1 := by
    show (m.logged inst).program.size = 1
    rw [program_logged, program]
    rfl
  have stopped := settle_outside counter (by rw [size]; exact before) (.one turned) (Nat.lt_succ_self 1)
  exact ⟨m, _, _, created, (fresh.run_eq 2).trans stopped, counter⟩

end Machine

end TapeLang
