import TapeLang.Proofs.Log.Entries
import TapeLang.Proofs.Machine.Stops

/-! The log of a run without hooks.

Each step is logged before it is taken, so the entries that have been logged are the states at the top
of the loop, in their order. The log keeps the last of them, and neighbours are one turn apart. -/

set_option autoImplicit false

namespace TapeLang

theorem Value.eq_of_cell? {value : Value} {cell : UInt8} (fits : value.cell? = some cell) :
    value = .int ↑cell.toNat := by
  cases value with
  | int n =>
    simp only [Value.cell?, Bool.and_eq_true, decide_eq_true_eq] at fits
    split at fits
    · rename_i inside
      cases fits
      have same : ((UInt8.ofNat n.toNat).toNat : Int) = n := by
        rw [UInt8.toNat_ofNat']
        omega
      rw [same]
    · cases fits
  | _ => cases fits

namespace Machine

variable {ρ ω : Type} {m : Machine ρ ω} {pc : Int} {p : Nat} {inst : Instruction}

theorem jump_eq_done {target : Option Int} {next : Machine ρ ω}
    (jumped : m.jump target = .done next) :
    target.map (· + 1) = next.pc ∧ next = { m with pc := next.pc } := by
  cases target with
  | none => cases jumped
  | some target =>
    cases jumped
    exact ⟨rfl, rfl⟩

variable [Reader ρ] [Writer ω]

/-- What a turn changes can be read off the entry of its step. -/
theorem At.goes_on (here : m.At pc p) {entry : LogEntry} {next : Machine ρ ω}
    (opcode : entry.op = inst.op) (counter : entry.pc = pc)
    (cell : entry.cell = ↑(m.tape.cell p).toNat)
    (taken : (m.perform inst).next advance = .done next) :
    entry.counterAfter inst.target = next.pc ∧ next.pointer = inst.op.pointerAfter ↑p ∧
      (next.pointer = ↑p →
        entry.cellAfter (Reader.read m.reader).1 = some ↑(next.tape.cell p).toNat) := by
  have zero : entry.cell = 0 ↔ m.tape.cell p = 0 := by
    rw [cell, ← UInt8.toNat_inj]
    simp
  rw [here.perform_advance] at taken
  simp only [LogEntry.counterAfter, LogEntry.cellAfter, opcode, counter, zero]
  obtain ⟨op, target⟩ := inst
  cases op with
  | increment =>
    cases taken
    refine ⟨rfl, here.pointer, fun _ => ?_⟩
    simp [pass, Tape.cell_put_self _ here.inside, cell]
  | decrement =>
    cases taken
    refine ⟨rfl, here.pointer, fun _ => ?_⟩
    simp [pass, Tape.cell_put_self _ here.inside, toNat_decrement, cell]
  | moveRight =>
    dsimp only at taken
    split at taken <;> cases taken
    refine ⟨rfl, rfl, fun stays => ?_⟩
    simp only [pass] at stays
    omega
  | moveLeft =>
    dsimp only at taken
    split at taken <;> cases taken
    refine ⟨rfl, ?_, fun stays => ?_⟩
    · simp only [pass, Opcode.pointerAfter]
      omega
    · simp only [pass] at stays
      omega
  | jumpIfZero =>
    dsimp only at taken ⊢
    split at taken
    · obtain ⟨counter, same⟩ := jump_eq_done taken
      rw [if_pos ‹_›]
      exact ⟨counter, by rw [same]; exact here.pointer, fun _ => by rw [same, cell]⟩
    · cases taken
      rw [if_neg ‹_›]
      exact ⟨rfl, here.pointer, fun _ => congrArg some cell⟩
  | jumpIfNonZero =>
    dsimp only at taken ⊢
    split at taken
    · cases taken
      rw [if_pos ‹_›]
      exact ⟨rfl, here.pointer, fun _ => congrArg some cell⟩
    · obtain ⟨counter, same⟩ := jump_eq_done taken
      rw [if_neg ‹_›]
      exact ⟨counter, by rw [same]; exact here.pointer, fun _ => by rw [same, cell]⟩
  | output =>
    dsimp only at taken
    split at taken <;> cases taken
    exact ⟨rfl, here.pointer, fun _ => congrArg some cell⟩
  | input =>
    dsimp only at taken ⊢
    split at taken
    · cases taken
    · split at taken <;> cases taken
      rename_i answered _ _ fits
      refine ⟨rfl, here.pointer, fun _ => ?_⟩
      rw [answered, Value.eq_of_cell? fits]
      simp only [pass, Tape.cell_put_self _ here.inside]
  | other name =>
    cases taken
    exact ⟨rfl, here.pointer, fun _ => congrArg some cell⟩

/-! ## Turns -/

theorem Reaches.next_turn {i : Nat} {before after : Machine ρ ω} (earlier : m.Reaches i before)
    (later : m.Reaches (i + 1) after) : before.turn? = some (.done after) := by
  have between := earlier.between later (Nat.le_add_right i 1)
  rw [Nat.add_sub_cancel_left] at between
  cases between with
  | turn turned rest =>
    cases rest
    exact turned

theorem Reaches.last_turn {k : Nat} {last : Machine ρ ω} (reaches : m.Reaches (k + 1) last) :
    ∃ before, m.Reaches k before ∧ before.turn? = some (.done last) := by
  induction k generalizing m with
  | zero => exact ⟨m, .refl, Reaches.refl.next_turn reaches⟩
  | succ k ih =>
    cases reaches with
    | turn turned rest =>
      obtain ⟨before, reached, final⟩ := ih rest
      exact ⟨before, .turn turned reached, final⟩

theorem Reaches.setup {k : Nat} {last : Machine ρ ω} (reaches : m.Reaches k last) :
    m.SameSetup last := by
  induction reaches with
  | refl => exact .refl _
  | turn turned _ ih => exact (turn?_setup turned : SameSetup _ _).trans ih

-- Whether or not the instruction succeeds, the turn has logged it and nothing else.
theorem At.log_turn (here : m.At pc p) {outcome : Outcome Fault (Machine ρ ω)}
    (fetched : m.program.fetch pc = .instruction inst) (turned : m.turn? = some outcome) :
    outcome.Leaves fun state => state.log = (m.logged inst).log := by
  rw [here.turn_eq fetched] at turned
  cases turned
  have framed := perform_frames inst (m.logged inst)
  cases performed : (m.logged inst).perform inst with
  | done next =>
    rw [performed] at framed
    obtain ⟨_, _, pc, _, _, rfl, _⟩ := framed
    cases pc <;> rfl
  | stopped fault state =>
    rw [performed] at framed
    obtain ⟨_, _, _, _, _, rfl, _⟩ := framed
    rfl
  | exhausted => trivial

/-- The states of a run without hooks, and how many steps have been logged there: states at the top of
the loop, and what a turn leaves behind that is stopped. -/
inductive AfterSteps (m : Machine ρ ω) : Nat → Machine ρ ω → Prop where
  | top {k : Nat} {state : Machine ρ ω} : m.Reaches k state → AfterSteps m k state
  | stopped {k : Nat} {before state : Machine ρ ω} {fault : Fault} : m.Reaches k before →
      before.turn? = some (.stopped fault state) → AfterSteps m (k + 1) state

theorem Fresh.run_afterSteps (fresh : m.Fresh) (fuel : Nat) :
    (m.run fuel).Leaves fun state => ∃ k, m.AfterSteps k state := by
  cases ended : m.run fuel with
  | done state =>
    obtain ⟨k, reaches, _⟩ := fresh.run_done ended
    exact ⟨k, .top reaches⟩
  | stopped fault state =>
    obtain ⟨k, before, _, reaches, stops, _⟩ := fresh.run_stopped ended
    exact ⟨k + 1, .stopped reaches stops⟩
  | exhausted => trivial

/-! ## Entries -/

structure Enters (program : Program) (m : Machine ρ ω) (i : Nat) (entry : LogEntry)
    (before : Machine ρ ω) (pc p : Nat) (inst : Instruction) : Prop where
  reaches : m.Reaches i before
  here : before.At ↑pc p
  found : program.code[pc]? = some inst
  entered : before.entryFor inst = .ok entry
  stepIndex : entry.stepIndex = i

/-- The entries of the first `k` steps are these, the newest first, and the log keeps what its capacity
allows. -/
structure HasEntered (program : Program) (capacity : Option Nat) (m : Machine ρ ω) (k : Nat)
    (state : Machine ρ ω) (all : List LogEntry) : Prop where
  keeps : state.log.Keeps capacity all
  length : all.length = k
  entered : ∀ i entry, all.reverse[i]? = some entry →
    ∃ before pc p inst, Enters program m i entry before pc p inst

variable {program : Program} {capacity : Option Nat} {k : Nat} {state : Machine ρ ω}

theorem HasEntered.turn (linked : program.Linked) (within : m.InRange program)
    {before : Machine ρ ω} {all : List LogEntry} {outcome : Outcome Fault (Machine ρ ω)}
    (entered : HasEntered program capacity m k before all) (reaches : m.Reaches k before)
    (turned : before.turn? = some outcome) :
    ∃ all, outcome.Leaves fun state => HasEntered program capacity m (k + 1) state all := by
  obtain ⟨same, pc, p, here, bound⟩ := within.reaches linked reaches
  rcases Nat.lt_or_eq_of_le bound with inside | rfl
  · obtain ⟨inst, found⟩ := Program.found_of_lt inside
    have fetched : before.program.fetch ↑pc = .instruction inst := by
      rw [same, Program.fetch_of_found found]
    obtain ⟨entry, isEntry, stepIndex, logged⟩ := here.exists_entry inst
    refine ⟨entry :: all, (here.log_turn fetched turned).imp fun state log => ?_⟩
    rw [logged] at log
    refine ⟨log ▸ entered.keeps.record entry, congrArg (· + 1) entered.length, ?_⟩
    intro i other listed
    rw [List.reverse_cons, List.getElem?_append] at listed
    split at listed
    · exact entered.entered i other listed
    · have index : i = k := by
        have size := (List.getElem?_eq_some_iff.mp listed).1
        simp only [List.length_reverse, entered.length, List.length_singleton] at *
        omega
      subst index
      simp only [List.length_reverse, entered.length, Nat.sub_self, List.getElem?_cons_zero,
        Option.some.injEq] at listed
      subst listed
      refine ⟨before, pc, p, inst, reaches, here, found, isEntry, ?_⟩
      rw [stepIndex, entered.keeps.stepCount, entered.length]
  · simp only [turn?, here.counter, same, Program.fetch_size] at turned
    cases turned

theorem Reaches.hasEntered (linked : program.Linked) (within : m.InRange program)
    (keeps : m.log.Keeps capacity []) (reaches : m.Reaches k state) :
    ∃ all, HasEntered program capacity m k state all := by
  induction k generalizing state with
  | zero =>
    cases reaches
    exact ⟨[], keeps, rfl, nofun⟩
  | succ k ih =>
    obtain ⟨before, reached, turned⟩ := reaches.last_turn
    obtain ⟨all, entered⟩ := ih reached
    obtain ⟨more, after⟩ := entered.turn linked within reached turned
    exact ⟨more, after⟩

theorem AfterSteps.hasEntered (linked : program.Linked) (within : m.InRange program)
    (keeps : m.log.Keeps capacity []) (after : m.AfterSteps k state) :
    ∃ all, HasEntered program capacity m k state all := by
  cases after with
  | top reaches => exact reaches.hasEntered linked within keeps
  | stopped reaches turned =>
    obtain ⟨all, entered⟩ := reaches.hasEntered linked within keeps
    obtain ⟨more, left⟩ := entered.turn linked within reaches turned
    exact ⟨more, left⟩

/-- An entry that shows a state at the top of the loop, with the instruction that is taken there. -/
structure Describes (program : Program) (verbose : Bool) (entry : LogEntry) (before : Machine ρ ω)
    (pc p : Nat) (inst : Instruction) : Prop where
  here : before.At ↑pc p
  found : program.code[pc]? = some inst
  counter : entry.pc = ↑pc
  op : entry.op = inst.op
  pointer : entry.pointer = ↑p
  cell : entry.cell = ↑(before.tape.cell p).toNat
  location : ∃ location, program.locations[pc]? = some location ∧ entry.location = some location
  window : verbose = true → ∃ window, entry.window = some window ∧ window.Shows before.tape p
  bare : verbose = false → entry.window = none

variable {text filename : String} {i : Nat} {entry next : LogEntry}

theorem Enters.describes (loaded : load text filename = .ok program) (within : m.InRange program)
    {before : Machine ρ ω} {pc p : Nat} (enters : Enters program m i entry before pc p inst) :
    Describes program m.verbose entry before pc p inst := by
  obtain ⟨reaches, here, found, isEntry, _⟩ := enters
  have same := (within.reaches (linked_of_load loaded) reaches).1
  rw [here.entryFor_eq, same, reaches.setup.verbose] at isEntry
  cases isEntry
  obtain ⟨location, stands⟩ := location_of_load loaded found
  refine ⟨here, found, rfl, rfl, rfl, rfl, ⟨location, stands, ?_⟩, ?_, ?_⟩
  · simpa [Program.locate] using stands
  · rintro verbose
    exact ⟨_, if_pos verbose, Tape.window_shows _ here.inside⟩
  · rintro verbose
    simp [verbose]

theorem Describes.precedes {verbose : Bool} {before after : Machine ρ ω} {pc p newPc q : Nat}
    {new : Instruction} (first : Describes program verbose entry before pc p inst)
    (second : Describes program verbose next after newPc q new)
    (same : before.program = program) (turned : before.turn? = some (.done after))
    (index : next.stepIndex = entry.stepIndex + 1) :
    entry.Precedes next inst.target (Reader.read before.reader).1 := by
  rw [first.here.turn_eq (by rw [same, Program.fetch_of_found first.found])] at turned
  obtain ⟨counter, pointer, cell⟩ := (first.here.logged inst).goes_on first.op
    first.counter (by simpa using first.cell) (Option.some.inj turned)
  rw [second.here.counter] at counter
  rw [second.here.pointer] at pointer cell
  refine ⟨index, by rw [counter, second.counter], ?_, fun stays => ?_⟩
  · rw [second.pointer, first.pointer, first.op, pointer]
  · rw [second.pointer, first.pointer] at stays
    rw [second.cell, Int.ofNat.inj stays]
    simpa using cell stays

/-- What the log of a run keeps after `k` steps: the entries of the last of them, numbered on end, each
with the state before its step, and neighbours with one turn between them. -/
structure LogsLast (program : Program) (verbose : Bool) (history : Option Int) (m : Machine ρ ω)
    (k : Nat) (state : Machine ρ ω) : Prop where
  stepCount : state.log.stepCount = k
  indices : state.log.entries.toList.map (·.stepIndex) =
    List.range' (k - StepLog.keptOf history k) (StepLog.keptOf history k)
  entries : ∀ entry ∈ state.log.entries.toList, ∃ before pc p inst,
    m.Reaches entry.stepIndex before ∧ Describes program verbose entry before pc p inst
  neighbours : ∀ i entry next, state.log.entries.toList[i]? = some entry →
    state.log.entries.toList[i + 1]? = some next →
    ∃ before after pc p inst newPc q new, m.Reaches entry.stepIndex before ∧
      before.turn? = some (.done after) ∧
      Describes program verbose entry before pc p inst ∧
      Describes program verbose next after newPc q new ∧
      entry.Precedes next inst.target (Reader.read before.reader).1

omit [Reader ρ] [Writer ω] in
theorem verbose_of_create {reader : ρ} {writer : ω} {verbose : Bool} {history : Option Int}
    (created : create program reader writer verbose {} history = .ok m) : m.verbose = verbose := by
  unfold create reset at created
  split at created
  · cases created
    rfl
  · cases created

theorem HasEntered.logsLast {history : Option Int} {all : List LogEntry}
    (loaded : load text filename = .ok program) (within : m.InRange program)
    (entered : HasEntered program (StepLog.kept history) m k state all) :
    LogsLast program m.verbose history m k state := by
  obtain ⟨keeps, length, isEntered⟩ := entered
  have kept (i : Nat) : state.log.entries.toList[i]? =
      all.reverse[k - StepLog.keptOf history k + i]? := by
    rw [keeps.toList, List.getElem?_drop, length]
  refine ⟨keeps.stepCount.trans length, ?_, ?_, ?_⟩
  · apply List.ext_getElem?
    intro i
    have atMost := StepLog.keptOf_le history k
    rw [List.getElem?_map, kept]
    by_cases few : i < StepLog.keptOf history k
    · have inside : k - StepLog.keptOf history k + i < all.reverse.length := by
        rw [List.length_reverse, length]
        omega
      obtain ⟨before, pc, p, inst, enters⟩ := isEntered _ _ (List.getElem?_eq_getElem inside)
      rw [List.getElem?_eq_getElem inside, Option.map_some, enters.stepIndex,
        List.getElem?_range' few, Nat.one_mul]
    · have outside : all.reverse.length ≤ k - StepLog.keptOf history k + i := by
        rw [List.length_reverse, length]
        omega
      rw [List.getElem?_eq_none outside, List.getElem?_eq_none (by simpa using few)]
      rfl
  · intro entry member
    obtain ⟨i, listed⟩ := List.mem_iff_getElem?.mp member
    rw [kept] at listed
    obtain ⟨before, pc, p, inst, enters⟩ := isEntered _ entry listed
    exact ⟨before, pc, p, inst, enters.stepIndex ▸ enters.reaches, enters.describes loaded within⟩
  · intro i entry next listed follows
    rw [kept] at listed follows
    obtain ⟨before, pc, p, inst, enters⟩ := isEntered _ entry listed
    obtain ⟨after, newPc, q, new, follow⟩ := isEntered _ next follows
    have turned := enters.reaches.next_turn follow.reaches
    have first := enters.describes loaded within
    have second := follow.describes loaded within
    have same := (within.reaches (linked_of_load loaded) enters.reaches).1
    refine ⟨before, after, pc, p, inst, newPc, q, new, enters.stepIndex ▸ enters.reaches, turned,
      first, second, first.precedes second same turned ?_⟩
    rw [follow.stepIndex, enters.stepIndex]
    rfl

/-- At every state of a run without hooks the log has kept what it should, and every run ends in such a
state, whether it is stopped or not. -/
theorem run_logged (loaded : load text filename = .ok program) {reader : ρ} {writer : ω}
    {verbose : Bool} {history : Option Int}
    (created : create program reader writer verbose {} history = .ok m) :
    (∀ k state, m.AfterSteps k state → LogsLast program verbose history m k state) ∧
      ∀ fuel, (m.run fuel).Leaves fun state => ∃ k, m.AfterSteps k state := by
  have within := inRange_of_create created
  obtain ⟨capacity, valid, log⟩ := log_of_create created
  obtain ⟨rfl, _⟩ := StepLog.capacity_eq_ok.mp valid
  have keeps : m.log.Keeps (StepLog.kept history) [] := log ▸ StepLog.keeps_empty verbose _
  refine ⟨fun k state after => ?_, (fresh_of_create created).run_afterSteps⟩
  obtain ⟨all, entered⟩ := after.hasEntered (linked_of_load loaded) within keeps
  have logs := entered.logsLast loaded within
  rwa [verbose_of_create created] at logs

-- There is nothing to read, so the third step is the last; two are kept.
theorem unread_logged :
    ∃ (program : Program) (m : Machine ScriptReader BufferWriter) (fault : Fault)
      (state : Machine ScriptReader BufferWriter),
      load "+>," "unread" = .ok program ∧ create program {} {} true {} (some 2) = .ok m ∧
        m.run 3 = .stopped fault state ∧ LogsLast program true (some 2) m 3 state := by
  let reader : ScriptReader := {}
  let writer : BufferWriter := {}
  obtain ⟨program, loaded, m, created, fault, state, stopped, steps⟩ : ∃ program,
      load "+>," "unread" = .ok program ∧ ∃ m, create program reader writer true {} (some 2) = .ok m ∧
        ∃ fault state, m.run 3 = .stopped fault state ∧ state.log.stepCount = 3 :=
    ⟨_, rfl, _, rfl, _, _, rfl, rfl⟩
  obtain ⟨logs, ends⟩ := run_logged loaded created
  have left := ends 3
  rw [stopped] at left
  obtain ⟨k, after⟩ := left
  have last := logs k state after
  have count : k = 3 := last.stepCount.symm.trans steps
  exact ⟨program, m, fault, state, loaded, created, stopped, count ▸ last⟩

end Machine

end TapeLang
