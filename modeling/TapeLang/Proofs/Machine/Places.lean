import TapeLang.Proofs.Machine.Faults
import TapeLang.Proofs.Machine.Stops

/-! The places of errors.

An error of the loop has the place of its instruction, and the counter is left there. There is one
exception: a jump that is taken moves the counter before step rules are called. -/

set_option autoImplicit false

namespace TapeLang

/-- Whether an action only takes notes, registers hooks, or stops its handler by an ordinary
failure. -/
inductive Action.Passive : Action → Prop where
  | log : Passive .log
  | trace {line : TraceLine} : Passive (.trace line)
  | register {hook : Hook} : Passive (.register hook)
  | raise {failure : Failure} : (∀ message, failure ≠ .raised .run message) →
      Passive (.raise failure)

def HookRegistry.RaisesWordless (registry : HookRegistry) (why : Unwritable) : Prop :=
  ∃ name, registry.Declares (.raise (.unworded name why))

def Instruction.Jumps (inst : Instruction) (cell : UInt8) : Prop :=
  inst.op = .jumpIfZero ∧ cell = 0 ∨ inst.op = .jumpIfNonZero ∧ cell ≠ 0

theorem Instruction.Jumps.isJump {inst : Instruction} {cell : UInt8} (jumps : inst.Jumps cell) :
    inst.op.IsJump := jumps.imp (·.1) (·.1)

-- No bracket is its own match.
theorem Program.Linked.target_ne {program : Program} (linked : program.Linked) {k : Nat}
    {inst : Instruction} (found : program.code[k]? = some inst) (isJump : inst.op.IsJump) :
    inst.target ≠ some ↑k := by
  rcases isJump with opening | closing
  · obtain ⟨other, matched⟩ := linked.opening k inst found opening
    cases matched.opens.symm.trans found
    have ordered := matched.ordered
    simp only [ne_eq, Option.some.injEq]
    omega
  · obtain ⟨other, matched⟩ := linked.closing k inst found closing
    cases matched.closes.symm.trans found
    have ordered := matched.ordered
    simp only [ne_eq, Option.some.injEq]
    omega

namespace Machine

variable {ρ ω : Type}

def Takes (m : Machine ρ ω) (inst : Instruction) : Prop := ∃ cell, m.cell? = some cell ∧ inst.Jumps cell

/-- A machine with the same program, tape, pointer and counter as another, and with hooks that declare
nothing but what a given registry declares. -/
structure Beside (registry : HookRegistry) (m next : Machine ρ ω) : Prop where
  program : next.program = m.program
  tape : next.tape = m.tape
  pointer : next.pointer = m.pointer
  counter : next.pc = m.pc
  declared : ∀ action, next.hooks.Declares action → registry.Declares action

variable {registry : HookRegistry} {m next : Machine ρ ω}

theorem Beside.errorHere (beside : m.Beside registry next) (reason : Reason) :
    next.errorHere reason = m.errorHere reason := by
  simp only [Machine.errorHere, here, beside.counter, beside.program, beside.pointer]

theorem Beside.at (beside : m.Beside registry next) {pc : Int} {p : Nat} (here : m.At pc p) :
    next.At pc p :=
  ⟨beside.counter.trans here.counter, beside.pointer.trans here.pointer, here.inside⟩

theorem Beside.takes (beside : m.Beside registry next) {inst : Instruction} :
    next.Takes inst ↔ m.Takes inst := by
  simp only [Takes, cell?, beside.tape, beside.pointer]

/-! ## Hooks -/

section
variable [Writer ω] {fuel : Nat} (passive : ∀ action, registry.Declares action → action.Passive)
include passive

theorem Beside.tame (m : Machine ρ ω) :
    HookHost.Tame registry.Declares (Beside registry m) fun fault next =>
      Beside registry m next ∧ ∃ failure, fault = .failure failure ∧
        ∀ why, failure.message = .error why → registry.RaisesWordless why where
  declared next beside := beside.declared
  recounted next other beside same :=
    ⟨beside.program, beside.tape, beside.pointer, beside.counter, fun action declares =>
      beside.declared action (same.declares declares)⟩
  acts next action beside allowed extension id arguments := by
    have quiet := passive action allowed
    have unassigned (assignment : Assignment) : action ≠ .assign assignment := by
      rintro rfl
      cases quiet
    have kept (other : Machine ρ ω) (acted : next.Acted extension action other) :
        m.Beside registry other := by
      have tape := acted.tape.resolve_right fun ⟨_, same⟩ => unassigned _ same
      have pointer := acted.pointer.resolve_right (unassigned _)
      have counter := acted.counter.resolve_right (unassigned _)
      exact ⟨acted.spares.program.trans beside.program, tape.trans beside.tape,
        pointer.trans beside.pointer, counter.trans beside.counter, fun _ declares =>
        acted.declared beside.declared allowed declares⟩
    refine (next.act_ends extension id arguments action).imp kept ?_
    rintro fault other ⟨acted, stops⟩
    refine ⟨kept other acted, ?_⟩
    cases stops with
    | @raise failure =>
      cases quiet with
      | raise ordinary =>
        unfold Fault.ofFailure
        split
        · exact absurd rfl (ordinary _)
        · refine ⟨_, rfl, fun why unworded => ?_⟩
          obtain ⟨name, rfl⟩ := Failure.message_eq_error.mp unworded
          exact ⟨name, allowed⟩
    | raiseRun => cases quiet
    | write _ => cases quiet
    | failure worded =>
      refine ⟨_, rfl, fun why unworded => ?_⟩
      rw [worded] at unworded
      cases unworded

theorem emitEvent_beside (counter : m.pc ≠ none)
    (declared : ∀ action, m.hooks.Declares action → registry.Declares action) (event : Event)
    (arguments : List Argument) :
    (m.emitEvent fuel event arguments).Ends (m.Beside registry) fun fault next =>
      m.Beside registry next ∧
        ((∃ failure, fault = .run (m.errorHere (.hookFailed event failure))) ∨
          ∃ why, fault = .failure (.unwritable why) ∧ registry.RaisesWordless why) := by
  refine emitEvent_ends (Beside.tame passive m) ⟨rfl, rfl, rfl, rfl, declared⟩ ?_ ?_ ?_ ?_
  · rintro error next ⟨_, failure, same, _⟩
    cases same
  · rintro failure next ⟨beside, _⟩ _
    exact ⟨beside, .inl ⟨failure, by rw [beside.errorHere]⟩⟩
  · rintro failure why next ⟨beside, _, ⟨⟩, wordless⟩ unworded
    exact ⟨beside, .inr ⟨why, rfl, wordless why unworded⟩⟩
  · rintro failure next ⟨beside, _⟩ lost
    exact absurd (beside.counter.symm.trans lost) counter

theorem emitStep_beside (declared : ∀ action, m.hooks.Declares action → registry.Declares action)
    (entry : LogEntry) :
    (m.emitStep fuel entry).Ends (m.Beside registry) fun fault next =>
      m.Beside registry next ∧ ((∃ failure, fault = .run
        { reason := .ruleFailed failure, location := entry.location, pc := some entry.pc
          pointer := some m.pointer }) ∨ ∃ why, fault = .failure (.unwritable why)) := by
  refine emitStep_ends (Beside.tame passive m) ⟨rfl, rfl, rfl, rfl, declared⟩ ?_ ?_ ?_
  · rintro error next ⟨_, failure, same, _⟩
    cases same
  · rintro failure next ⟨beside, _⟩
    exact ⟨beside, .inl ⟨failure, by rw [beside.pointer]⟩⟩
  · rintro failure why next ⟨beside, _⟩ _
    exact ⟨beside, .inr ⟨why, rfl⟩⟩

end

/-! ## Instructions -/

variable {program : Program} {pc p : Nat} {inst : Instruction}

/-- What the effect of an instruction at `pc` leaves behind: the counter has moved only if the
instruction is a jump that is taken. -/
structure Effected (m : Machine ρ ω) (pc : Nat) (inst : Instruction) (next : Machine ρ ω) : Prop where
  program : next.program = m.program
  hooks : next.hooks = m.hooks
  inside : ∃ q : Nat, next.pointer = ↑q ∧ q < Tape.size
  taken : next.Takes inst → next.pc = inst.target
  stays : ¬ next.Takes inst → next.pc = some ↑pc

-- A jump that is taken leads to another instruction of the program.
theorem Effected.goes_on {done : Machine ρ ω} (effected : m.Effected pc inst done)
    (linked : program.Linked) (found : program.code[pc]? = some inst) :
    ∃ next : Nat, next < program.size ∧ done.pc = some ↑next ∧ (done.Takes inst ↔ next ≠ pc) := by
  by_cases takes : done.Takes inst
  · have ⟨cell, _, jumps⟩ := takes
    obtain ⟨target, known, bound⟩ := linked.target found jumps.isJump
    have away : target ≠ pc := fun same => linked.target_ne found jumps.isJump (same ▸ known)
    exact ⟨target, bound, (effected.taken takes).trans known, iff_of_true takes away⟩
  · have inside : pc < program.size := (Array.getElem?_eq_some_iff.mp found).1
    exact ⟨pc, inside, effected.stays takes, iff_of_false takes (absurd rfl)⟩

theorem At.jumpIf_effected (here : m.At ↑pc p) {test : UInt8 → Bool}
    (tests : test (m.tape.cell p) = true ↔ inst.Jumps (m.tape.cell p)) :
    (m.jumpIf test inst.target).Ends (m.Effected pc inst) fun _ _ => False := by
  have takes {next : Machine ρ ω} (tape : next.tape = m.tape) (pointer : next.pointer = m.pointer) :
      next.Takes inst ↔ inst.Jumps (m.tape.cell p) := by
    simp only [Takes, Machine.cell?, tape, pointer, Tape.get?, here.position, Option.map_some,
      Option.some.injEq, exists_eq_left']
  unfold Machine.jumpIf
  rw [here.cell?]
  dsimp only
  split
  · rename_i jumps
    have taken : Takes { m with pc := inst.target } inst := (takes rfl rfl).mpr (tests.mp jumps)
    exact ⟨rfl, rfl, ⟨p, here.pointer, here.inside⟩, fun _ => rfl, fun stays => absurd taken stays⟩
  · rename_i fails
    have stays : ¬ m.Takes inst := fun taken => fails (tests.mpr ((takes rfl rfl).mp taken))
    exact ⟨rfl, rfl, ⟨p, here.pointer, here.inside⟩, fun taken => absurd taken stays,
      fun _ => here.counter⟩

variable [Reader ρ] [Writer ω]

theorem At.perform_effected (here : m.At ↑pc p) (inst : Instruction) :
    (m.perform inst).Ends (m.Effected pc inst) fun fault next =>
      ∃ reason reader writer, fault = .ofError (m.errorHere reason) ∧
        (∀ cause, reason ≠ .ruleFailed cause) ∧ next = { m with reader, writer } := by
  by_cases isJump : inst.op.IsJump
  · have never (fault : Fault) (next : Machine ρ ω) (stops : False) :
        ∃ reason reader writer, fault = .ofError (m.errorHere reason) ∧
          (∀ cause, reason ≠ .ruleFailed cause) ∧ next = { m with reader, writer } := stops.elim
    rcases isJump with op | op
    · have jumped : m.perform inst = m.jumpIf (· == 0) inst.target := by simp only [perform, op]
      rw [jumped]
      exact (here.jumpIf_effected (by simp [Instruction.Jumps, op])).imp (fun _ kept => kept) never
    · have jumped : m.perform inst = m.jumpIf (· != 0) inst.target := by simp only [perform, op]
      rw [jumped]
      exact (here.jumpIf_effected (by simp [Instruction.Jumps, op])).imp (fun _ kept => kept) never
  · refine (perform_effect inst m).imp ?_ ?_
    · rintro next ⟨tape, pointer, counter, reader, writer, rfl, range, moved⟩
      have same : counter = m.pc := moved.resolve_right fun jumps => isJump jumps.1
      refine ⟨rfl, rfl, ?_, ?_, fun _ => same.trans here.counter⟩
      · rcases range with same | ⟨start, inside⟩
        · exact ⟨p, same.trans here.pointer, here.inside⟩
        · exact ⟨pointer.toNat, by simp only; omega, by omega⟩
      · rintro ⟨_, _, jumps⟩
        exact absurd jumps.isJump isJump
    · rintro fault next ⟨reader, writer, rfl, ⟨_, off⟩ | ⟨reason, rfl, kind⟩⟩
      · rw [here.position] at off
        cases off
      · refine ⟨reason, reader, writer, refuse_eq here.counter reason, ?_, rfl⟩
        rintro cause rfl
        simp [Reason.kind] at kind

/-! ## The loop -/

/-- An error with the place of an instruction, and where the counter is left: at that instruction,
unless a step rule has failed after a jump. -/
structure PlacedAt (program : Program) (error : RunError) (state : Machine ρ ω) (pc : Nat)
    (inst : Instruction) : Prop where
  found : program.code[pc]? = some inst
  counter : error.pc = some ↑pc
  location : ∃ location, program.locations[pc]? = some location ∧ error.location = some location
  left : state.pc = error.pc ↔ ¬ ((∃ cause, error.reason = .ruleFailed cause) ∧ state.Takes inst)

omit [Reader ρ] [Writer ω] in
theorem PlacedAt.beside {error : RunError} (placed : PlacedAt program error m pc inst)
    (beside : m.Beside registry next) : PlacedAt program error next pc inst :=
  ⟨placed.found, placed.counter, placed.location, by
    rw [beside.counter, beside.takes]
    exact placed.left⟩

structure Calm (program : Program) (registry : HookRegistry) (m : Machine ρ ω) : Prop where
  within : m.InRange program
  declared : ∀ action, m.hooks.Declares action → registry.Declares action

/-- The error that a fault of the loop comes to: the lack of words is an error of the machine. -/
def Becomes (state : Machine ρ ω) (fault : Fault) (error : RunError) : Prop :=
  fault = .run error ∨ ∃ why, fault = .failure (.unwritable why) ∧
    error = state.errorHere (.internal (.unwritable why))

def StopsPlaced (program : Program) (registry : HookRegistry) (fault : Fault)
    (state : Machine ρ ω) : Prop :=
  ∃ error pc inst, state.Becomes fault error ∧ PlacedAt program error state pc inst ∧
    state.pc ≠ none ∧ ∀ action, state.hooks.Declares action → registry.Declares action

-- After the instruction, only a jump that was taken has left another counter.
omit [Reader ρ] [Writer ω] in
theorem stopsPlaced_rule {done state : Machine ρ ω} {next : Nat} {failure : Failure}
    {location : Option SourceLocation} {pointer : Option Int} (found : program.code[pc]? = some inst)
    (located : ∃ own, program.locations[pc]? = some own ∧ location = some own)
    (moved : done.pc = some ↑next) (moves : done.Takes inst ↔ next ≠ pc)
    (beside : done.Beside registry state) :
    StopsPlaced program registry
      (.run { reason := .ruleFailed failure, location, pc := some ↑pc, pointer }) state := by
  have left : state.pc = some ↑next := beside.counter.trans moved
  have same : state.pc = some ↑pc ↔ next = pc := by
    rw [left, Option.some.injEq, Int.ofNat_inj]
  refine ⟨_, pc, inst, .inl rfl, ⟨found, rfl, located, ?_⟩, left ▸ nofun, beside.declared⟩
  rw [same, beside.takes, moves]
  simp

section
variable {text filename : String} {fuel : Nat} (loaded : load text filename = .ok program)
  (passive : ∀ action, registry.Declares action → action.Passive)
include loaded passive

omit passive [Reader ρ] [Writer ω] in
-- Where the counter has not moved, the place of the error is that of its machine.
theorem placedAt_here (same : m.program = program) (here : m.At ↑pc p)
    (found : program.code[pc]? = some inst) {reason : Reason}
    (ordinary : ∀ cause, reason ≠ .ruleFailed cause) (counter : next.pc = m.pc) :
    PlacedAt program (m.errorHere reason) next pc inst := by
  obtain ⟨location, stands⟩ := location_of_load loaded found
  refine ⟨found, here.counter, ⟨location, stands, ?_⟩, ?_⟩
  · show m.here = some location
    simpa [Machine.here, here.counter, same, Program.locate] using stands
  · refine iff_of_true counter ?_
    rintro ⟨⟨cause, rule⟩, _⟩
    exact ordinary cause rule

omit passive [Reader ρ] [Writer ω] in
theorem stopsPlaced_here (same : m.program = program) (here : m.At ↑pc p)
    (found : program.code[pc]? = some inst) (beside : m.Beside registry next) {fault : Fault}
    (stops : (∃ reason : Reason, fault = .run (m.errorHere reason) ∧
      ∀ cause, reason ≠ .ruleFailed cause) ∨ ∃ why, fault = .failure (.unwritable why)) :
    StopsPlaced program registry fault next := by
  have counted : next.pc ≠ none := by
    rw [beside.counter, here.counter]
    exact Option.some_ne_none _
  rcases stops with ⟨reason, rfl, ordinary⟩ | ⟨why, rfl⟩
  · exact ⟨_, pc, inst, .inl rfl, placedAt_here loaded same here found ordinary beside.counter, counted,
      beside.declared⟩
  · refine ⟨_, pc, inst, .inr ⟨why, rfl, rfl⟩, ?_, counted, beside.declared⟩
    rw [beside.errorHere]
    exact placedAt_here loaded same here found nofun beside.counter

theorem Calm.step (calm : m.Calm program registry) (gates : Gates) (here : m.At ↑pc p)
    (found : program.code[pc]? = some inst) :
    (m.step fuel gates inst).Ends (Calm program registry) (StopsPlaced program registry) := by
  have linked := linked_of_load loaded
  obtain ⟨⟨same, _⟩, declared⟩ := calm
  have told : (if gates.beforeStep then m.emitEvent fuel .beforeStep [.instruction inst]
      else .done m).Ends (m.Beside registry) (StopsPlaced program registry) := by
    split
    · have counter : m.pc ≠ none := by
        rw [here.counter]
        exact nofun
      refine (emitEvent_beside passive counter declared _ _).imp (fun _ kept => kept) ?_
      rintro fault next ⟨beside, ⟨failure, rfl⟩ | ⟨why, rfl, _⟩⟩
      · exact stopsPlaced_here loaded same here found beside (.inl ⟨_, rfl, nofun⟩)
      · exact stopsPlaced_here loaded same here found beside (.inr ⟨why, rfl⟩)
    · exact ⟨rfl, rfl, rfl, rfl, declared⟩
  refine told.next fun before beside => ?_
  have same := beside.program.trans same
  have here := beside.at here
  obtain ⟨location, stands⟩ := location_of_load loaded found
  rw [here.entryFor_eq]
  dsimp only
  generalize logs : LogEntry.mk _ _ _ _ _ _ _ = entry
  have counter : entry.pc = ↑pc := by rw [← logs]
  have located : entry.location = some location := by
    rw [← logs]
    simpa [same, Program.locate] using stands
  have logged : (before.recordStep entry).At ↑pc p := ⟨here.counter, here.pointer, here.inside⟩
  refine ((logged.perform_effected inst).imp (fun _ kept => kept) ?_).next ?_
  · rintro fault next ⟨reason, reader, writer, rfl, ordinary, rfl⟩
    have kept : before.Beside registry { before.recordStep entry with reader, writer } :=
      ⟨rfl, rfl, rfl, rfl, beside.declared⟩
    refine stopsPlaced_here loaded same here found kept ?_
    rcases Fault.ofError_cases ((before.recordStep entry).errorHere reason) with
      told | ⟨why, _, untold⟩
    · exact .inl ⟨reason, told, ordinary⟩
    · exact .inr ⟨why, untold⟩
  intro done effected
  have hooks : ∀ action, done.hooks.Declares action → registry.Declares action := by
    rw [effected.hooks]
    exact beside.declared
  obtain ⟨next, bound, moved, moves⟩ := effected.goes_on linked found
  obtain ⟨q, pointer, within⟩ := effected.inside
  have ruled : (if gates.rules then done.emitStep fuel entry else .done done).Ends
      (done.Beside registry) (StopsPlaced program registry) := by
    split
    · refine (emitStep_beside passive hooks entry).imp (fun _ kept => kept) ?_
      rintro fault state ⟨beside, ⟨failure, rfl⟩ | ⟨why, rfl⟩⟩
      · rw [counter]
        exact stopsPlaced_rule found ⟨location, stands, located⟩ moved moves beside
      · obtain ⟨other, there⟩ := Program.found_of_lt bound
        exact stopsPlaced_here loaded (effected.program.trans same) ⟨moved, pointer, within⟩ there
          beside (.inr ⟨why, rfl⟩)
    · exact ⟨rfl, rfl, rfl, rfl, hooks⟩
  refine ruled.next fun state beside => ?_
  have ends : state.At ↑next q :=
    ⟨beside.counter.trans moved, beside.pointer.trans pointer, within⟩
  unfold advance
  rw [ends.counter]
  exact ⟨⟨(beside.program.trans effected.program).trans same, next + 1, q,
    ⟨rfl, ends.pointer, within⟩, bound⟩, beside.declared⟩

theorem Calm.execute (calm : m.Calm program registry) (gates : Gates) :
    (execute gates fuel m).Ends (Calm program registry) (StopsPlaced program registry) := by
  induction fuel generalizing m with
  | zero => trivial
  | succ fuel ih =>
    have ⟨same, pc, p, here, bound⟩ := calm.within
    rw [execute_succ_next]
    simp only [here.counter, same]
    rcases Nat.lt_or_eq_of_le bound with inside | rfl
    · obtain ⟨inst, found⟩ := Program.found_of_lt inside
      simp only [Program.fetch_of_found found]
      exact (calm.step loaded passive gates here found).next fun _ calm => ih calm
    · simp only [Program.fetch_size]
      exact calm

end

/-- If hooks only take notes, register hooks and fail, then an error of the loop has the place of its
instruction, and the run leaves the counter there, unless a step rule has failed after a jump. What is
raised is that error, or what handlers of errors make of it. Where there are no words for a failure, the
error is that of not finding any. -/
theorem run_places_errors {text filename : String} {m fresh started stopped state : Machine ρ ω}
    (loaded : load text filename = .ok m.program) (ready : m.reset = .ok fresh)
    (passive : ∀ action, m.hooks.Declares action → action.Passive) {fuel : Nat} {fault raised : Fault}
    (begun : fresh.emitEvent fuel .programStart [.program fresh.program.size] = .done started)
    (failed : execute started.hooks.gates fuel started = .stopped fault stopped)
    (ended : m.run fuel = .stopped raised state) :
    ∃ error pc inst, stopped.Becomes fault error ∧ PlacedAt m.program error state pc inst ∧
      (raised = .run (error.attachStep stopped.log) ∨
        (∃ failure, raised = .run (state.errorHere (.hookFailed .onError failure))) ∨
        ∃ why, raised = .failure (.unwritable why) ∧ m.hooks.RaisesWordless why) := by
  have governed := governed_of_reset ready
  have start : fresh.Calm m.program m.hooks :=
    ⟨⟨governed.program, 0, 0, (initial_of_reset ready).at, Nat.zero_le _⟩, governed.declared⟩
  have told : (fresh.emitEvent fuel .programStart [.program fresh.program.size]).Ends _ _ :=
    emitEvent_beside passive governed.counter governed.declared _ _
  rw [begun] at told
  obtain ⟨same, pc, p, here, bound⟩ := start.within
  have calm : started.Calm m.program m.hooks :=
    ⟨⟨told.program.trans same, pc, p, told.at here, bound⟩, told.declared⟩
  have placed : (execute started.hooks.gates fuel started).Ends _ _ :=
    calm.execute loaded passive _
  rw [failed] at placed
  obtain ⟨error, pc, inst, becomes, placed, counter, declared⟩ := placed
  refine ⟨error, pc, inst, becomes, ?_⟩
  have concluded : m.run fuel = stopped.raise fuel error := by
    simp only [run, ready, Machine.start, begun, Outcome.next_done, failed]
    rcases becomes with rfl | ⟨why, rfl, rfl⟩
    · rfl
    · obtain ⟨index, counted⟩ := Option.ne_none_iff_exists'.mp counter
      have worded : ∃ message, (Reason.internal (.unwritable why)).message = .ok message := by
        cases why <;> exact ⟨_, rfl⟩
      obtain ⟨message, worded⟩ := worded
      simp only [conclude, refuse_of_message counted worded]
  have report : (stopped.emitEvent fuel .onError [.error (error.attachStep stopped.log)]).Ends _ _ :=
    emitEvent_beside passive counter declared _ _
  rw [concluded, raise] at ended
  cases emitted : stopped.emitEvent fuel .onError [.error (error.attachStep stopped.log)] with
  | done next =>
    rw [emitted] at report
    simp only [emitted, Outcome.next_done] at ended
    cases ended
    exact ⟨placed.beside report, .inl rfl⟩
  | stopped fault next =>
    rw [emitted] at report
    simp only [emitted, Outcome.next_stopped] at ended
    cases ended
    obtain ⟨beside, ⟨failure, rfl⟩ | ⟨why, rfl, wordless⟩⟩ := report
    · exact ⟨placed.beside beside, .inr (.inl ⟨failure, by rw [beside.errorHere]⟩)⟩
    · exact ⟨placed.beside beside, .inr (.inr ⟨why, rfl, wordless⟩)⟩
  | exhausted =>
    simp only [emitted, Outcome.next_exhausted] at ended
    cases ended

def strict : Machine ScriptReader BufferWriter where
  program := { code := #[⟨.increment, none⟩], locations := #[⟨"<string>", 1, 1, "+"⟩] }
  reader := {}
  writer := {}
  hooks := { rules := [⟨1, Nat.one_pos, "boom", "t",
    { id := "boom", tasks := [.mk none (.raise (.raised .value "bad hook"))] }⟩] }
  log := .empty false (some 16)

theorem passive_strict (action : Action) (declares : strict.hooks.Declares action) :
    action.Passive := by
  simp only [strict, HookRegistry.declares_iff, List.not_mem_nil, false_and, exists_false, false_or,
    List.mem_singleton, exists_eq_left, Action.in_cons, reduceCtorEq, Action.not_in_nil,
    or_false] at declares
  subst declares
  refine .raise fun message same => ?_
  cases same

theorem strict_placed :
    load "+" "<string>" = .ok strict.program ∧ strict.reset = .ok strict ∧
      (∀ action, strict.hooks.Declares action → action.Passive) ∧
      strict.emitEvent 2 .programStart [.program strict.program.size] = .done strict ∧
      ∃ error stopped raised state, execute strict.hooks.gates 2 strict = .stopped (.run error) stopped ∧
        strict.run 2 = .stopped raised state ∧
        ∃ pc inst, PlacedAt strict.program error state pc inst := by
  have loaded : load "+" "<string>" = .ok strict.program := rfl
  have ready : strict.reset = .ok strict := rfl
  have begun : strict.emitEvent 2 .programStart [.program strict.program.size] = .done strict := rfl
  obtain ⟨error, stopped, raised, state, failed, ended⟩ : ∃ error stopped raised state,
      execute strict.hooks.gates 2 strict = .stopped (.run error) stopped ∧
        strict.run 2 = .stopped raised state := ⟨_, _, _, _, rfl, rfl⟩
  obtain ⟨other, pc, inst, same | ⟨_, same, _⟩, placed, _⟩ :=
    run_places_errors loaded ready passive_strict begun failed ended <;> cases same
  exact ⟨loaded, ready, passive_strict, begun, error, stopped, raised, state, failed, ended, pc, inst,
    placed⟩

def leaping : Machine ScriptReader BufferWriter where
  program :=
    { code := #[⟨.jumpIfZero, some 1⟩, ⟨.jumpIfNonZero, some 0⟩]
      locations := #[⟨"<string>", 1, 1, "["⟩, ⟨"<string>", 1, 2, "]"⟩] }
  reader := {}
  writer := {}
  hooks := strict.hooks
  log := .empty false (some 16)

theorem leaping_step :
    ∃ error stopped, leaping.step 3 leaping.hooks.gates ⟨.jumpIfZero, some 1⟩ =
      .stopped (.run error) stopped ∧ error.pc = some 0 ∧ stopped.pc = some 1 ∧
        stopped.hooks.onError = [] := by
  have here : leaping.At 0 0 := ⟨rfl, rfl, by decide⟩
  have blank : leaping.tape.cell 0 = 0 := by simp [leaping, Tape.blank, Tape.cell]
  have jumps (log : StepLog) : ({ leaping with log } : Machine ScriptReader BufferWriter).perform
      ⟨.jumpIfZero, some 1⟩ = .done { leaping with log, pc := some 1 } := by
    have cell : ({ leaping with log } : Machine ScriptReader BufferWriter).cell? = some 0 := by
      rw [← blank]
      exact here.cell?
    simp only [perform, jumpIf, cell]
    rfl
  have stepped (entry : LogEntry) (entered : leaping.entryFor ⟨.jumpIfZero, some 1⟩ = .ok entry) :
      leaping.step 3 leaping.hooks.gates ⟨.jumpIfZero, some 1⟩ =
        ((leaping.recordStep entry).perform ⟨.jumpIfZero, some 1⟩).next fun m =>
          (m.emitStep 3 entry).next advance := by
    unfold step
    rw [show leaping.hooks.gates = ⟨false, true⟩ from rfl]
    simp only [Bool.false_eq_true, if_false, Outcome.next_done, entered, if_true]
  rw [stepped _ (here.entryFor_eq _), recordStep, jumps]
  exact ⟨_, _, rfl, rfl, rfl, rfl⟩

-- The jump has been taken when the rule fails.
theorem leaping_displaced :
    load "[]" "<string>" = .ok leaping.program ∧ leaping.reset = .ok leaping ∧
      (∀ action, leaping.hooks.Declares action → action.Passive) ∧
      leaping.emitEvent 4 .programStart [.program leaping.program.size] = .done leaping ∧
      ∃ error stopped state, execute leaping.hooks.gates 4 leaping = .stopped (.run error) stopped ∧
        leaping.run 4 = .stopped (.run (error.attachStep stopped.log)) state ∧
        state.pc ≠ error.pc := by
  obtain ⟨error, stopped, stepped, counter, left, unheard⟩ := leaping_step
  have ready : leaping.reset = .ok leaping := rfl
  have passive (action : Action) (declares : leaping.hooks.Declares action) : action.Passive :=
    passive_strict action declares
  have begun : leaping.emitEvent 4 .programStart [.program leaping.program.size] = .done leaping := rfl
  have failed : execute leaping.hooks.gates 4 leaping = .stopped (.run error) stopped := by
    rw [execute_succ_next]
    show (leaping.step 3 leaping.hooks.gates ⟨.jumpIfZero, some 1⟩).next _ = _
    rw [stepped]
    rfl
  have told : stopped.emitEvent 4 .onError [.error (error.attachStep stopped.log)] = .done stopped := by
    have handlers : (HookHost.hooks stopped).handlers .onError = [] := unheard
    simp [emitEvent, HookHost.emit, HookHost.emitFrom, handlers]
  have ended : leaping.run 4 = .stopped (.run (error.attachStep stopped.log)) stopped := by
    simp only [run, ready, start, begun, Outcome.next_done, failed, conclude, raise, told]
  refine ⟨rfl, ready, passive, begun, error, stopped, stopped, failed, ended, ?_⟩
  rw [left, counter]
  decide

end Machine

end TapeLang
