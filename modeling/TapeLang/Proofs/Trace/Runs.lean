import Mathlib.Data.List.Forall2
import TapeLang.Proofs.Machine.Gating
import TapeLang.Proofs.Machine.Stops
import TapeLang.Proofs.Trace.Hooks

/-! Runs with the trace extension.

The run is followed beside the one without hooks. After every step that is completed the lines printed
so far are those of the steps with a multiple of the period as their index; a step that fails prints
none, and the end of the run prints one more. -/

set_option autoImplicit false

namespace TapeLang

theorem length_multiples {every : Nat} (positive : 0 < every) (steps : Nat) :
    ((List.range steps).filter (every ∣ ·)).length = (steps + every - 1) / every := by
  induction steps with
  | zero =>
    rw [Nat.zero_add, Nat.div_eq_of_lt (Nat.sub_lt positive Nat.one_pos)]
    rfl
  | succ steps ih =>
    have shifted : steps + 1 + every - 1 = steps + every - 1 + 1 := by omega
    have whole : steps + every - 1 + 1 = steps + every := by omega
    have same : every ∣ steps + every ↔ every ∣ steps := Nat.dvd_add_self_right
    rw [List.range_succ, List.filter_append, List.length_append, ih, shifted, Nat.succ_div, whole]
    by_cases divides : every ∣ steps <;> simp [divides, same]

namespace Machine

open Trace

variable {ρ ω : Type} [Reader ρ] [Writer ω]

/-- Whether a line is about the step with an index of the loop that begins with `m`: it shows counter
and operation as they were before the step, and pointer and cell as they were after it. -/
def ShowsStep (m : Machine ρ ω) (index : Nat) (line : String) : Prop :=
  ∃ (before after : Machine ρ ω) (pc : Int) (inst : Instruction) (p : Nat),
    m.Reaches index before ∧ before.turn? = some (.done after) ∧
      before.pc = some pc ∧ before.program.fetch pc = .instruction inst ∧
      after.pointer = ↑p ∧ p < Tape.size ∧
      line = stepLine index pc inst.op ↑p (after.tape.cell p)

/-- Whether lines are about those of the first steps of which the index is a multiple of the period,
one about each and in their order. -/
structure ShowsSteps (every : Nat) (m : Machine ρ ω) (steps : Nat) (lines : List String) : Prop where
  each : List.Forall₂ m.ShowsStep ((List.range steps).filter (every ∣ ·)) lines
  length : lines.length = (steps + every - 1) / every

variable {every steps : Nat} {start m n : Machine ρ ω}

theorem showsSteps_of_each (positive : 0 < every) {lines : List String}
    (each : List.Forall₂ start.ShowsStep ((List.range steps).filter (every ∣ ·)) lines) :
    start.ShowsSteps every steps lines :=
  ⟨each, by rw [← each.length_eq, length_multiples positive]⟩

theorem showsSteps_zero (positive : 0 < every) (start : Machine ρ ω) :
    start.ShowsSteps every 0 [] :=
  showsSteps_of_each positive .nil

theorem ShowsSteps.succ (positive : 0 < every) {lines : List String}
    (shows : start.ShowsSteps every steps lines) {line : String}
    (shown : start.ShowsStep steps line) :
    start.ShowsSteps every (steps + 1) (if every ∣ steps then lines ++ [line] else lines) := by
  refine showsSteps_of_each positive ?_
  rw [List.range_succ, List.filter_append]
  by_cases divides : every ∣ steps
  · simp only [divides, if_true, List.filter_cons, decide_true, List.filter_nil]
    exact List.rel_append shows.each (.cons shown .nil)
  · simpa [divides] using shows.each

/-! ## One step -/

/-- What has been printed once a step with a line has been completed. -/
def printedAfter (every : Nat) (m : Machine ρ ω) (line : String) : Array String :=
  if every ∣ m.log.stepCount then m.diagnostics.push line else m.diagnostics

/-- A step prints its line if its index is a multiple of the period, unless it fails. -/
theorem step_traced (registers : Registers every m.hooks) {pc : Int} {p : Nat} (here : m.At pc p)
    (fuel : Nat) (inst : Instruction) :
    (m.step fuel Trace.gates inst).Ends
      (fun next => Registers every next.hooks ∧ ∃ cell, next.cell? = some cell ∧
        next.diagnostics =
          printedAfter every m (stepLine m.log.stepCount pc inst.op next.pointer cell))
      fun fault next => fault = .failure .noCounter ∨
        Registers every next.hooks ∧ next.diagnostics = m.diagnostics := by
  simp only [step, Trace.gates, Bool.false_eq_true, if_false, if_true, Outcome.next_done,
    here.entryFor_eq]
  generalize entered : LogEntry.mk _ _ _ _ _ _ _ = entry
  have index : entry.stepIndex = m.log.stepCount := by rw [← entered]
  have counter : entry.pc = pc := by rw [← entered]
  have op : entry.op = inst.op := by rw [← entered]
  have inside : Tape.position? (m.recordStep entry).pointer ≠ none := by
    rw [show (m.recordStep entry).pointer = m.pointer from rfl, here.position]
    exact Option.some_ne_none p
  refine Outcome.Ends.next (P := fun next => next.hooks = m.hooks ∧
    next.diagnostics = m.diagnostics ∧ ∃ cell, next.cell? = some cell)
    ((perform_frames inst (m.recordStep entry)).imp ?_ ?_) ?_
  · rintro _ ⟨tape, pointer, pc, reader, writer, rfl, within⟩
    exact ⟨rfl, rfl, Option.ne_none_iff_exists'.mp (mt cell?_eq_none (within inside))⟩
  · rintro _ _ ⟨tape, pointer, pc, reader, writer, rfl, within⟩
    exact .inr ⟨registers, rfl⟩
  rintro next ⟨hooks, diagnostics, cell, found⟩
  have own : Registers every next.hooks := hooks ▸ registers
  refine Outcome.Ends.next (P := fun next => Registers every next.hooks ∧
    next.cell? = some cell ∧ next.diagnostics =
      printedAfter every m (stepLine m.log.stepCount pc inst.op next.pointer cell))
    ((emitStep_traced own found fuel entry).imp ?_ fun _ _ => False.elim) ?_
  · intro after printed
    rw [index, counter, op] at printed
    unfold printedAfter
    split at printed
    · rename_i divides
      obtain ⟨_, registered, rfl⟩ := printed
      rw [← diagnostics, if_pos divides]
      exact ⟨registered, found, rfl⟩
    · rename_i others
      cases printed
      rw [if_neg others]
      exact ⟨own, found, diagnostics⟩
  · rintro after ⟨registered, same, printed⟩
    unfold advance
    cases after.pc with
    | none => exact .inl rfl
    | some pc => exact ⟨registered, cell, same, printed⟩

/-! ## The loop -/

/-- A machine with the trace extension beside one without hooks, after a number of steps that have
been completed. -/
structure Traced (every : Nat) (start : Machine ρ ω) (steps : Nat) (m n : Machine ρ ω) : Prop where
  watches : m.Watches 1 n
  registers : Registers every m.hooks
  reaches : start.Reaches steps n
  shows : start.ShowsSteps every steps m.diagnostics.toList

/-- Both machines after a number of steps that have been completed and one that has failed. -/
structure Halted (every : Nat) (start : Machine ρ ω) (steps : Nat) (fault : Fault)
    (m n : Machine ρ ω) : Prop where
  watches : m.Watches 1 n
  registers : Registers every m.hooks
  stops : ∃ last, start.Reaches steps last ∧ last.turn? = some (.stopped fault n)
  shows : start.ShowsSteps every steps m.diagnostics.toList

theorem Reaches.stepCount {k : Nat} {last : Machine ρ ω} (reaches : m.Reaches k last) :
    last.log.stepCount = m.log.stepCount + k := by
  induction reaches with
  | refl => rfl
  | turn turned _ ih =>
    obtain ⟨entry, log⟩ := turn_log turned
    rw [ih, log, Nat.add_comm _ 1, ← Nat.add_assoc]
    rfl

theorem Traced.stepCount (traced : Traced every start steps m n)
    (initial : start.log.stepCount = 0) : m.log.stepCount = steps := by
  rw [← traced.watches.same.log, traced.reaches.stepCount, initial, Nat.zero_add]

theorem Traced.turn_eq (traced : Traced every start steps m n) {pc : Int} {inst : Instruction}
    (counter : m.pc = some pc) (fetched : m.program.fetch pc = .instruction inst) :
    n.turn? = some (n.step 0 .closed inst) := by
  have same := traced.watches.same
  simp only [turn?, same.counter, counter, same.program, fetched]

section

variable {program : Program} (linked : program.Linked) (within : start.InRange program)

include linked within

theorem Traced.inRange (traced : Traced every start steps m n) : m.InRange program := by
  obtain ⟨own, pc, p, here, bound⟩ := within.reaches linked traced.reaches
  have same := traced.watches.same
  exact ⟨same.program.symm.trans own, pc, p,
    ⟨same.counter.symm.trans here.counter, same.pointer.symm.trans here.pointer, here.inside⟩, bound⟩

/-- Either there is an instruction to execute or both loops are at their end. -/
theorem Traced.fetches (traced : Traced every start steps m n) :
    ∃ pc, m.pc = some pc ∧ ((∃ inst, m.program.fetch pc = .instruction inst) ∨
      m.program.fetch pc = .finished ∧ n.turn? = none) := by
  obtain ⟨own, pc, _, here, bound⟩ := traced.inRange linked within
  have same := traced.watches.same
  refine ⟨↑pc, here.counter, ?_⟩
  simp only [turn?, same.counter, here.counter, same.program, own]
  rcases Nat.lt_or_eq_of_le bound with inside | rfl
  · obtain ⟨inst, found⟩ := Program.found_of_lt inside
    exact .inl ⟨inst, Program.fetch_of_found found⟩
  · rw [Program.fetch_size]
    exact .inr ⟨rfl, rfl⟩

variable (initial : start.log.stepCount = 0)

include initial

/-- A step that has been completed on both machines adds its line if one is due. -/
theorem Traced.succ (traced : Traced every start steps m n) {pc : Int} {inst : Instruction}
    {next other : Machine ρ ω} {cell : UInt8} (counter : m.pc = some pc)
    (fetched : m.program.fetch pc = .instruction inst) (turned : n.turn? = some (.done other))
    (watches : next.Watches 1 other) (registers : Registers every next.hooks)
    (found : next.cell? = some cell)
    (lines : next.diagnostics =
      printedAfter every m (stepLine steps pc inst.op next.pointer cell)) :
    Traced every start (steps + 1) next other := by
  have same := traced.watches.same
  have reaches := traced.reaches.trans (.one turned)
  obtain ⟨_, _, q, there, _⟩ := within.reaches linked reaches
  have pointer : next.pointer = ↑q := watches.same.pointer.symm.trans there.pointer
  have after : cell = other.tape.cell q := by
    have own : next.cell? = other.cell? := by
      rw [Machine.cell?, Machine.cell?, watches.same.tape, watches.same.pointer]
    rw [own, there.cell?] at found
    exact (Option.some.inj found).symm
  have shown : start.ShowsStep steps (stepLine steps pc inst.op next.pointer cell) := by
    refine ⟨n, other, pc, inst, q, traced.reaches, turned, same.counter.trans counter, ?_,
      there.pointer, there.inside, ?_⟩
    · rw [same.program, fetched]
    · rw [pointer, after]
  obtain ⟨positive, _⟩ := traced.registers
  have shows := traced.shows.succ positive shown
  refine ⟨watches, registers, reaches, ?_⟩
  rw [lines, printedAfter, traced.stepCount initial]
  split at shows
  · rwa [if_pos ‹_›, Array.toList_push]
  · rwa [if_neg ‹_›]

/-- Both machines take a step at once, and it prints its line if one is due. -/
theorem Traced.step (traced : Traced every start steps m n) {pc : Int} {inst : Instruction}
    (counter : m.pc = some pc) (fetched : m.program.fetch pc = .instruction inst) (fuel : Nat) :
    (m.step fuel Trace.gates inst).Ends
      (fun next => ∃ other, n.turn? = some (.done other) ∧
        Traced every start (steps + 1) next other)
      fun fault state => ∃ other, n.turn? = some (.stopped fault other) ∧
        Halted every start steps fault state other := by
  have turned := traced.turn_eq counter fetched
  obtain ⟨_, _, p, here, _⟩ := traced.inRange linked within
  have printed := step_traced traced.registers ⟨counter, here.pointer, here.inside⟩ fuel inst
  have alike : Outcome.Shadows (1 < fuel) (· = ·) (Watches 1) (m.step fuel Trace.gates inst)
      (n.step 0 .closed inst) := traced.watches.step Trace.gates inst 0
  rw [traced.stepCount initial] at printed
  generalize m.step fuel Trace.gates inst = outcome at printed alike
  generalize n.step 0 .closed inst = bare at turned alike
  cases outcome with
  | exhausted => trivial
  | done next =>
    cases alike (.inr (by simp)) with
    | @done _ other watches =>
      obtain ⟨registers, cell, found, lines⟩ := printed
      exact ⟨other, turned, traced.succ linked within initial counter fetched turned watches
        registers found lines⟩
  | stopped fault state =>
    cases alike (.inr (by simp)) with
    | @stopped _ _ _ other equal watches =>
      subst equal
      -- In a loaded program no step is stopped after its rule has been called.
      obtain ⟨_, _, _, _, _, _, _, _, _, rfl, _⟩ :=
        (within.reaches linked traced.reaches).refused_of_stopped linked turned
      obtain ⟨registers, lines⟩ := printed.resolve_left (Fault.ofError_ne_noCounter _)
      refine ⟨other, turned, watches, registers, ⟨n, traced.reaches, turned⟩, ?_⟩
      rw [lines]
      exact traced.shows

theorem Traced.execute (traced : Traced every start steps m n) (fuel : Nat) :
    (Machine.execute Trace.gates fuel m).Ends
      (fun state => ∃ steps last, Traced every start steps state last ∧ last.turn? = none)
      fun fault state => ∃ steps other, Halted every start steps fault state other := by
  induction fuel generalizing steps m n with
  | zero => trivial
  | succ fuel ih =>
    obtain ⟨pc, counter, fetches⟩ := traced.fetches linked within
    rw [execute_succ_next, counter]
    dsimp only
    rcases fetches with ⟨inst, fetched⟩ | ⟨fetched, finished⟩
    · rw [fetched]
      have stepped := traced.step linked within initial counter fetched fuel
      refine (stepped.imp (fun _ taken => taken) ?_).next ?_
      · rintro fault state ⟨other, _, halted⟩
        exact ⟨_, other, halted⟩
      · rintro next ⟨other, _, more⟩
        exact ih more
    · rw [fetched]
      exact ⟨steps, n, traced, finished⟩

/-- Wherever the loop gets to, the lines so far are those of the steps that have been completed. -/
theorem GetsTo.traced {state : Machine ρ ω} (gets : m.GetsTo Trace.gates state)
    (traced : Traced every start steps m n) :
    ∃ steps other, Traced every start steps state other ∨
      ∃ fault, Halted every start steps fault state other := by
  induction gets generalizing steps n with
  | here => exact ⟨steps, n, .inl traced⟩
  | @stopped m state pc inst fuel fault counter fetched taken =>
    have stepped := traced.step linked within initial counter fetched fuel
    rw [taken] at stepped
    obtain ⟨other, _, halted⟩ := stepped
    exact ⟨steps, other, .inr ⟨fault, halted⟩⟩
  | @turn m next state pc inst fuel counter fetched taken _ ih =>
    have stepped := traced.step linked within initial counter fetched fuel
    rw [taken] at stepped
    obtain ⟨other, _, more⟩ := stepped
    exact ih more

/-- The loop gets as far as the one without hooks. -/
theorem Traced.follows (traced : Traced every start steps m n) {k : Nat} {last : Machine ρ ω}
    (reaches : n.Reaches k last) :
    ∃ state, m.GetsTo Trace.gates state ∧ Traced every start (steps + k) state last := by
  induction reaches generalizing steps m with
  | refl => exact ⟨m, .here, traced⟩
  | @turn n next last k turned _ ih =>
    obtain ⟨pc, counter, ⟨inst, fetched⟩ | ⟨_, finished⟩⟩ := traced.fetches linked within
    · -- Two calls are enough for the one rule.
      have stepped := traced.step linked within initial counter fetched 2
      have alike := (traced.watches.step Trace.gates inst 0) (.inl Nat.one_lt_two)
      rw [← Option.some.inj (turned.symm.trans (traced.turn_eq counter fetched))] at alike
      generalize taken : m.step 2 Trace.gates inst = outcome at stepped alike
      cases alike with
      | @done state _ _ =>
        obtain ⟨other, again, more⟩ := stepped
        cases turned.symm.trans again
        obtain ⟨final, gets, traced⟩ := ih more
        refine ⟨final, .turn counter fetched taken gets, ?_⟩
        rwa [Nat.add_right_comm] at traced
    · cases turned.symm.trans finished

theorem Halted.reports {fault : Fault} (halted : Halted every start steps fault m n) :
    (∃ error, ∀ fuel, conclude fuel (.stopped fault m) = m.raise fuel error) ∧
      m.log.stepCount = steps + 1 := by
  obtain ⟨last, reaches, stops⟩ := halted.stops
  obtain ⟨pc, p, inst, here, _, reason, reader, writer, _, rfl, left⟩ :=
    (within.reaches linked reaches).refused_of_stopped linked stops
  have same := halted.watches.same
  constructor
  · have counter : m.pc = some ↑pc := by
      rw [← same.counter, left]
      exact (here.logged inst).counter
    rcases Fault.ofError_cases (last.errorHere reason) with told | ⟨why, _, fails⟩
    · exact ⟨last.errorHere reason, fun _ => by rw [told, conclude]⟩
    · obtain ⟨message, words⟩ := Fault.hasWords_unwritable why
      refine ⟨m.errorHere (.internal (.unwritable why)), fun fuel => ?_⟩
      rw [fails, conclude, refuse_of_message counter (Reason.message_internal words)]
  · rw [← same.log, left]
    show (last.logged inst).log.stepCount = _
    rw [here.stepCount_logged, reaches.stepCount, initial, Nat.zero_add]

end

/-! ## Runs -/

structure FinishesTraced (every : Nat) (n : Machine ρ ω) (steps : Nat) (lines : List String)
    (state : Machine ρ ω) : Prop where
  completed : ∃ last, n.Reaches steps last ∧ last.turn? = none ∧ state.SameRun last
  logged : state.log.stepCount = steps
  shows : n.ShowsSteps every steps lines
  printed : state.diagnostics.toList = lines ++ [endLine "finished" steps state.tape]

/-- How a run with the trace extension is stopped by an error. The step that fails is logged, too. -/
structure BreaksTraced (every : Nat) (n : Machine ρ ω) (steps : Nat) (lines : List String)
    (error : RunError) (state : Machine ρ ω) : Prop where
  completed : ∃ last cause other, n.Reaches steps last ∧
    last.turn? = some (.stopped cause other) ∧ state.SameRun other
  logged : state.log.stepCount = steps + 1
  shows : n.ShowsSteps every steps lines
  printed : state.diagnostics.toList = lines ++ [endLine error.kind (steps + 1) state.tape]

/-- The run of a machine with the trace extension beside that of the machine `n` without hooks. Both
end alike or not at all, and what is printed are the lines of the steps that have been completed, at
each point of the loop, with a last line at the end of the run. -/
structure RunsTraced (every : Nat) (m n : Machine ρ ω) : Prop where
  ends : (∃ fuel, m.run fuel ≠ .exhausted) ↔ ∃ fuel, n.run fuel ≠ .exhausted
  alike : ∀ fuel other, m.run fuel ≠ .exhausted → n.run other ≠ .exhausted →
    (m.run fuel).Alike (· = ·) SameRun (n.run other)
  starts : m.Starts m
  underway : ∀ state, m.GetsTo m.hooks.gates state → ∃ steps last, n.Reaches steps last ∧
    (state.SameRun last ∨
      ∃ fault other, last.turn? = some (.stopped fault other) ∧ state.SameRun other) ∧
    n.ShowsSteps every steps state.diagnostics.toList
  follows : ∀ steps last, n.Reaches steps last → ∃ state, m.GetsTo m.hooks.gates state ∧
    state.SameRun last ∧ n.ShowsSteps every steps state.diagnostics.toList
  finishes : ∀ fuel state, m.run fuel = .done state →
    ∃ steps lines, FinishesTraced every n steps lines state
  breaks : ∀ fuel fault state, m.run fuel = .stopped fault state →
    ∃ error steps lines, fault = .run error ∧ BreaksTraced every n steps lines error state

/-- The last line of a run, behind those of its steps. -/
theorem Traced.run_ends {program : Program} (linked : program.Linked) (within : n.InRange program)
    (initial : n.log.stepCount = 0) (ready : m.reset = .ok m) (traced : Traced every n 0 m n)
    (fuel : Nat) :
    (m.run fuel).Ends (fun state => ∃ steps lines, FinishesTraced every n steps lines state)
      fun fault state => ∃ error steps lines, fault = .run error ∧
        BreaksTraced every n steps lines error state := by
  have started : (m.start fuel).Ends
      (fun state => ∃ steps last, Traced every n steps state last ∧ last.turn? = none)
      fun fault state => ∃ steps other, Halted every n steps fault state other := by
    refine ((emitEvent_start traced.registers _ fuel).imp (fun _ same => same)
      fun _ _ => False.elim).next ?_
    rintro _ rfl
    rw [traced.registers.gates]
    exact traced.execute linked within initial fuel
  simp only [Machine.run, ready]
  generalize m.start fuel = outcome at started
  cases outcome with
  | exhausted => trivial
  | done state =>
    obtain ⟨steps, last, traced, finished⟩ := started
    have same := traced.watches.same
    have count := traced.stepCount initial
    refine (emitEvent_finished traced.registers fuel).imp ?_ fun _ _ => False.elim
    intro next printed
    have tape : next.tape = state.tape := (printed.same same).tape.symm.trans same.tape
    refine ⟨steps, _, ⟨last, traced.reaches, finished, printed.same same⟩, ?_, traced.shows, ?_⟩
    · rw [← (printed.same same).log, same.log, count]
    · rw [printed.lines, count, tape]
  | stopped fault state =>
    obtain ⟨steps, other, halted⟩ := started
    obtain ⟨⟨error, told⟩, count⟩ := halted.reports linked within initial
    obtain ⟨last, reaches, stops⟩ := halted.stops
    have same := halted.watches.same
    rw [told]
    refine Outcome.Ends.next (P := state.Printed every
      (endLine error.kind state.log.stepCount state.tape)) ?_ fun next printed => ?_
    · exact (emitEvent_failed halted.registers (error.attachStep state.log) fuel).imp
        (fun _ printed => printed) fun _ _ => False.elim
    · have tape : next.tape = state.tape := (printed.same same).tape.symm.trans same.tape
      refine ⟨_, steps, _, rfl, ⟨last, _, other, reaches, stops, printed.same same⟩, ?_,
        halted.shows, ?_⟩
      · rw [← (printed.same same).log, same.log, count]
      · rw [printed.lines, count, tape]
        rfl

theorem Traced.runsTraced {program : Program} (linked : program.Linked)
    (within : n.InRange program) (fresh : n.Fresh) (ready : m.reset = .ok m)
    (traced : Traced every n 0 m n) : RunsTraced every m n where
  ends := by
    constructor
    · rintro ⟨fuel, enough⟩
      exact ⟨fuel, (traced.watches.run ready fresh enough).ends_iff.mp enough⟩
    · rintro ⟨fuel, enough⟩
      exact ⟨fuel + 2, traced.watches.run_ends ready fresh Nat.one_lt_two enough⟩
  alike fuel other enough ends := by
    have alike := traced.watches.run ready fresh enough
    rwa [fresh.run_unique (alike.ends_iff.mp enough) ends] at alike
  starts := by
    obtain ⟨_, _, _, _, own⟩ := traced.registers
    exact ⟨m, 1, ready, emitEvent_of_nil (by rw [own]; rfl) 0⟩
  underway state gets := by
    rw [traced.registers.gates] at gets
    obtain ⟨steps, other, traced | ⟨fault, halted⟩⟩ :=
      gets.traced linked within fresh.initial.stepCount traced
    · exact ⟨steps, other, traced.reaches, .inl traced.watches.same, traced.shows⟩
    · obtain ⟨last, reaches, stops⟩ := halted.stops
      exact ⟨steps, last, reaches, .inr ⟨fault, other, stops, halted.watches.same⟩, halted.shows⟩
  follows steps last reaches := by
    obtain ⟨state, gets, later⟩ := traced.follows linked within fresh.initial.stepCount reaches
    rw [Nat.zero_add] at later
    exact ⟨state, traced.registers.gates ▸ gets, later.watches.same, later.shows⟩
  finishes fuel state ended := by
    have last := traced.run_ends linked within fresh.initial.stepCount ready fuel
    rw [ended] at last
    exact last
  breaks fuel fault state ended := by
    have last := traced.run_ends linked within fresh.initial.stepCount ready fuel
    rw [ended] at last
    exact last

omit [Reader ρ] [Writer ω] in
theorem create_unhooked {program : Program} {reader : ρ} {writer : ω} {verbose : Bool}
    {hooks : HookRegistry} {history : Option Int}
    (created : create program reader writer verbose hooks history = .ok m) :
    create program reader writer verbose {} history = .ok m.unhooked ∧ m.reset = .ok m ∧
      m.hooks = hooks ∧ m.diagnostics = #[] := by
  have bare := reset_unhooked { program, reader, writer, verbose, history, hooks }
  rw [show reset _ = _ from created] at bare
  refine ⟨bare, reset_reset created, hooks_of_reset created, ?_⟩
  unfold create reset at created
  split at created <;> cases created
  rfl

/-- A run with the trace extension prints a line about each step that is completed and has a multiple
of the period as its index, and one line about its end. Otherwise it is the run without hooks. -/
theorem run_traced {text filename : String} {program : Program}
    (loaded : load text filename = .ok program) (positive : 1 ≤ every) (path : List Char) :
    ∃ services, (Trace.extension every).enroll path {} = .ok services ∧
      ∀ (reader : ρ) (writer : ω) (verbose : Bool) (history : Option Int) (m : Machine ρ ω),
        create program reader writer verbose services.hooks history = .ok m →
          ∃ n, create program reader writer verbose {} history = .ok n ∧ RunsTraced every m n := by
  refine ⟨_, enroll_extension positive path, fun reader writer verbose history m created => ?_⟩
  obtain ⟨bare, ready, hooks, blank⟩ := create_unhooked created
  have registers : Registers every m.hooks := ⟨positive, 0, 0, 0, hooks⟩
  have watches := watches_unhooked ready registers.observes registers.few
  have shows : m.unhooked.ShowsSteps every 0 m.diagnostics.toList := by
    rw [blank]
    exact showsSteps_zero positive m.unhooked
  have traced : Traced every m.unhooked 0 m m.unhooked := ⟨watches, registers, .refl, shows⟩
  exact ⟨m.unhooked, bare, traced.runsTraced (linked_of_load loaded) (inRange_of_create bare)
    (fresh_of_create bare) ready⟩

/-- Of three steps the first and the third are shown. -/
theorem run_traced_third :
    ∃ (program : Program) (services : Services) (m n : Machine ScriptReader BufferWriter),
      load "+>+" "third" = .ok program ∧ (Trace.extension 2).enroll [] {} = .ok services ∧
        create program {} {} true services.hooks none = .ok m ∧
        create program {} {} true {} none = .ok n ∧ RunsTraced 2 m n ∧
        ∃ fuel state lines, m.run fuel = .done state ∧ lines.length = 2 ∧
          state.diagnostics.toList = lines ++ [endLine "finished" 3 state.tape] := by
  let reader : ScriptReader := {}
  let writer : BufferWriter := {}
  obtain ⟨program, loaded, bare, last, created, ended, count⟩ :
      ∃ program, load "+>+" "third" = .ok program ∧ ∃ bare last,
        create program reader writer true {} none = .ok bare ∧ bare.run 4 = .done last ∧
          last.log.stepCount = 3 := ⟨_, rfl, _, _, rfl, rfl, rfl⟩
  obtain ⟨services, enrolled, runs⟩ :=
    @run_traced ScriptReader BufferWriter _ _ 2 "+>+" "third" program loaded (by decide) []
  obtain ⟨m, made⟩ : ∃ m, create program reader writer true services.hooks none = .ok m := ⟨_, rfl⟩
  obtain ⟨n, createdToo, traced⟩ := runs reader writer true none m made
  cases created.symm.trans createdToo
  have enough : bare.run 4 ≠ .exhausted := by
    rw [ended]
    exact nofun
  obtain ⟨fuel, ends⟩ := traced.ends.mpr ⟨4, enough⟩
  have alike := traced.alike fuel 4 ends enough
  rw [ended] at alike
  generalize run : m.run fuel = outcome at alike
  cases alike with
  | @done state _ same =>
    obtain ⟨steps, lines, finishes⟩ := traced.finishes fuel state run
    obtain rfl : steps = 3 := by rw [← finishes.logged, ← same.log, count]
    exact ⟨program, services, m, bare, loaded, enrolled, made, created, traced, fuel, state, lines,
      run, finishes.shows.length, finishes.printed⟩

end Machine

end TapeLang
