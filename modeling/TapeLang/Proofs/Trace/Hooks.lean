import TapeLang.Extension.Load
import TapeLang.Proofs.Machine.Bounds
import TapeLang.Proofs.Machine.Observers
import TapeLang.Trace.Extension

/-! What the hooks of the trace extension do at each point of a run.

There is one step rule, one handler of the end and one of an error. Each of them prints a line and
leaves the machine as it was, but for the count of its calls. -/

set_option autoImplicit false

namespace TapeLang

namespace Trace

def registry (every : Nat) (positive : 0 < every) (steps ends errors : Nat) : HookRegistry where
  programEnd :=
    [⟨0, "trace", { id := "_on_end", tasks := [.mk none (.trace .finished)], calls := ends }⟩]
  onError :=
    [⟨0, "trace", { id := "_on_error", tasks := [.mk none (.trace .failed)], calls := errors }⟩]
  rules :=
    [⟨every, positive, "trace_step", "trace",
      { id := "_trace_step", tasks := [.mk none (.trace .step)], calls := steps }⟩]

def Registers (every : Nat) (hooks : HookRegistry) : Prop :=
  ∃ positive steps ends errors, hooks = registry every positive steps ends errors

def gates : Gates := ⟨false, true⟩

def stepLine (index : Nat) (pc : Int) (op : Opcode) (pointer : Int) (cell : UInt8) : String :=
  s!"[trace] step={index} pc={pc} op={op.name} ptr={pointer} cell={cell.toNat}"

def endLine (how : String) (steps : Nat) (tape : Tape) : String :=
  s!"[trace] {how} " ++ (s!"after {steps} step(s); " ++ summary tape.cells.toList)

-- The line as it is put together.
theorem stepLine_eq {number : Int} {index : Nat} (indexed : number = index) (pc : Int) (op : Opcode)
    (pointer : Int) (cell : UInt8) :
    s!"[trace] step={number} pc={pc} op={op.name} " ++ s!"ptr={pointer} cell={cell.toNat}" =
      stepLine index pc op pointer cell := by
  have shown : toString number = toString index := by
    rw [indexed]
    rfl
  have joined : toString " ptr=" = toString " " ++ toString "ptr=" := by decide
  unfold stepLine
  -- Simplifying would unfold the names of operations.
  generalize op.name = name
  simp only [shown, joined, String.append_assoc]

variable {every : Nat} {hooks : HookRegistry}

/-- Registering the extension brings its hooks and nothing else. -/
theorem enroll_extension (positive : 0 < every) (path : List Char) :
    (extension every).enroll path {} =
      .ok { metadata := [metadata], hooks := registry every positive 0 0 0 } := by
  have number : 0 < (every : Int).toNat := positive
  have registered : (extension every).register "trace" {} =
      .ok { metadata := [metadata], hooks := registry every positive 0 0 0 } := by
    simp only [ExtensionModule.register, extension, hooks, List.map_cons, List.map_nil,
      List.foldlM_cons, Call.perform, Services.register, HookRegistry.register,
      HookRegistry.enterIn_eq, HookRegistry.everySteps, dif_pos number]
    rfl
  exact registered

theorem Registers.gates (registers : Registers every hooks) : hooks.gates = Trace.gates := by
  obtain ⟨positive, steps, ends, errors, rfl⟩ := registers
  rfl

theorem Registers.observes (registers : Registers every hooks) : hooks.Observes := by
  obtain ⟨positive, steps, ends, errors, rfl⟩ := registers
  intro action declares
  have listed : action = .trace .finished ∨ action = .trace .failed ∨ action = .trace .step := by
    simpa [registry, HookRegistry.declares_iff] using declares
  rcases listed with rfl | rfl | rfl <;> exact .inr ⟨_, rfl⟩

theorem Registers.few (registers : Registers every hooks) : hooks.Few 1 := by
  obtain ⟨positive, steps, ends, errors, rfl⟩ := registers
  refine ⟨fun event => ?_, Nat.le_refl 1⟩
  cases event <;> simp [HookRegistry.handlers, registry]

end Trace

/-! ## One hook of a kind -/

namespace HookHost

section

variable {σ : Type} [HookHost σ] {s : σ} {event : Event} {arguments : List Argument}
  {context : StepContext} {i : Nat}

theorem call_trace (s : σ) (extension id : String) (calls : Nat) (line : TraceLine)
    (arguments : List Argument) :
    call extension { id, tasks := [.mk none (.trace line)], calls } arguments s =
      stop (trace s line arguments) := by
  simp only [call, performAll, perform, Option.all_none, if_true]
  exact Outcome.next_pure _

-- Past the last hook there is nothing to call.
theorem emitFrom_past (past : ((hooks s).handlers event).length ≤ i) (fuel : Nat) :
    (emitFrom event arguments fuel i s).Ends (· = s) fun _ _ => False := by
  cases fuel with
  | zero => trivial
  | succ fuel =>
    rw [emitFrom, List.getElem?_eq_none past]
    rfl

theorem afterStepFrom_past (past : (hooks s).rules.length ≤ i) (fuel : Nat) :
    (afterStepFrom context fuel i s).Ends (· = s) fun _ _ => False := by
  cases fuel with
  | zero => trivial
  | succ fuel =>
    rw [afterStepFrom, List.getElem?_eq_none past]
    rfl

end

end HookHost

namespace Machine

open Trace

variable {ρ ω : Type} [Writer ω] {m : Machine ρ ω} {every fuel : Nat} {P : Machine ρ ω → Prop}

theorem emitEvent_of_emit {event : Event} {arguments : List Argument}
    (called : (HookHost.emit fuel event arguments m).Ends P fun _ _ => False) :
    (m.emitEvent fuel event arguments).Ends P fun _ _ => False := by
  unfold emitEvent
  cases emitted : HookHost.emit fuel event arguments m with
  | stopped fault next =>
    rw [emitted] at called
    exact called.elim
  | done | exhausted =>
    rw [emitted] at called
    exact called

theorem emitStep_of_afterStep {entry : LogEntry}
    (called : (HookHost.afterStep fuel
      ⟨entry.stepIndex, entry.pc, entry.op, m.pointer, entry.location⟩ m).Ends P fun _ _ => False) :
    (m.emitStep fuel entry).Ends P fun _ _ => False := by
  unfold emitStep
  cases emitted : HookHost.afterStep fuel
      ⟨entry.stepIndex, entry.pc, entry.op, m.pointer, entry.location⟩ m with
  | stopped fault next =>
    rw [emitted] at called
    exact called.elim
  | done | exhausted =>
    rw [emitted] at called
    exact called

def Printed (every : Nat) (line : String) (m next : Machine ρ ω) : Prop :=
  ∃ hooks, Registers every hooks ∧ next = { m with hooks }.print line

section

variable {n next : Machine ρ ω} {line : String}

omit [Writer ω] in
theorem Printed.same (printed : m.Printed every line next) (same : m.SameRun n) :
    next.SameRun n := by
  obtain ⟨hooks, _, rfl⟩ := printed
  exact ⟨⟨same.tape, same.pointer, same.counter, same.reader, same.writer⟩, same.program,
    same.verbose, same.history, same.log⟩

omit [Writer ω] in
theorem Printed.lines (printed : m.Printed every line next) :
    next.diagnostics.toList = m.diagnostics.toList ++ [line] := by
  obtain ⟨hooks, _, rfl⟩ := printed
  exact Array.toList_push

end

omit [Writer ω] in
theorem trace_step {cell : UInt8} (found : m.cell? = some cell) {context : StepContext}
    {index : Nat} (indexed : context.stepIndex = index) :
    m.trace .step [.step context] =
      .done (m.print (stepLine index context.pc context.op context.pointer cell)) := by
  rw [← stepLine_eq indexed]
  unfold Machine.trace
  dsimp only
  rw [found]

omit [Writer ω] in
theorem trace_finished (m : Machine ρ ω) (arguments : List Argument) :
    m.trace .finished arguments =
      .done (m.print (endLine "finished" m.log.stepCount m.tape)) := by
  rfl

omit [Writer ω] in
theorem trace_failed (m : Machine ρ ω) (error : RunError) :
    m.trace .failed [.error error] =
      .done (m.print (endLine error.kind m.log.stepCount m.tape)) := by
  rfl

/-- The step rule prints a line for a step of which the index is a multiple of the period. -/
theorem emitStep_traced (registers : Registers every m.hooks) {cell : UInt8}
    (found : m.cell? = some cell) (fuel : Nat) (entry : LogEntry) :
    (m.emitStep fuel entry).Ends (fun next =>
      if every ∣ entry.stepIndex then
        m.Printed every (stepLine entry.stepIndex entry.pc entry.op m.pointer cell) next
      else next = m) fun _ _ => False := by
  obtain ⟨positive, steps, ends, errors, own⟩ := registers
  refine emitStep_of_afterStep ?_
  have rules : (HookHost.hooks m).rules = (registry every positive steps ends errors).rules :=
    congrArg HookRegistry.rules own
  cases fuel with
  | zero => trivial
  | succ fuel =>
    rw [HookHost.afterStep, HookHost.afterStepFrom, rules]
    simp only [registry, List.getElem?_cons_zero, ← Int.dvd_iff_emod_eq_zero,
      Int.natCast_dvd_natCast]
    by_cases divides : every ∣ entry.stepIndex
    · simp only [divides, if_true]
      let next : Machine ρ ω := { m with hooks := registry every positive (steps + 1) ends errors }
      have counted : HookHost.countRule m 0 ⟨every, positive, "trace_step", "trace",
          { id := "_trace_step", tasks := [.mk none (.trace .step)], calls := steps }⟩ = next := by
        show { m with hooks := { m.hooks with rules := m.hooks.rules.set 0 _ } } = next
        rw [own]
        rfl
      rw [counted, HookHost.StepRule.counted, HookHost.call_trace]
      have printed := @trace_step ρ ω next cell found
        ⟨entry.stepIndex, entry.pc, entry.op, m.pointer, entry.location⟩ entry.stepIndex rfl
      rw [show HookHost.trace next .step _ = next.trace .step _ from rfl, printed]
      refine (HookHost.afterStepFrom_past (Nat.le_refl 1) fuel).imp ?_ fun _ _ => id
      rintro _ rfl
      exact ⟨_, ⟨positive, _, _, _, rfl⟩, rfl⟩
    · simp only [divides, if_false]
      exact HookHost.afterStepFrom_past (by rw [rules]; exact Nat.le_refl 1) fuel

/-- A lone handler that prints a line leaves nothing else behind. -/
theorem emitEvent_traced {event : Event} {arguments : List Argument} {line : TraceLine}
    {text name : String} (calls : Nat) (hooks : HookRegistry)
    (only : m.hooks.handlers event =
      [⟨0, "trace", { id := name, tasks := [.mk none (.trace line)], calls }⟩])
    (counted : m.hooks.setHandlers event
      [⟨0, "trace", { id := name, tasks := [.mk none (.trace line)], calls := calls + 1 }⟩] = hooks)
    (registers : Registers every hooks)
    (printed : Machine.trace { m with hooks } line arguments =
      .done ({ m with hooks }.print text)) (fuel : Nat) :
    (m.emitEvent fuel event arguments).Ends (m.Printed every text) fun _ _ => False := by
  refine emitEvent_of_emit ?_
  have handlers : (HookHost.hooks m).handlers event = _ := only
  cases fuel with
  | zero => trivial
  | succ fuel =>
    rw [HookHost.emit, HookHost.emitFrom, handlers]
    simp only [List.getElem?_cons_zero]
    have next : HookHost.countHandler m event 0
        ⟨0, "trace", { id := name, tasks := [.mk none (.trace line)], calls }⟩ =
          { m with hooks } := by
      rw [← counted, HookHost.countHandler, handlers]
      rfl
    rw [next, HookHost.Registration.counted, HookHost.call_trace]
    rw [show HookHost.trace _ line arguments = Machine.trace { m with hooks } line arguments from rfl,
      printed]
    have past : (hooks.handlers event).length ≤ 1 := by
      rw [← counted, HookRegistry.handlers_setHandlers]
      exact Nat.le_refl 1
    refine (HookHost.emitFrom_past past fuel).imp ?_ fun _ _ => id
    rintro _ rfl
    exact ⟨hooks, registers, rfl⟩

theorem emitEvent_start (registers : Registers every m.hooks) (arguments : List Argument)
    (fuel : Nat) :
    (m.emitEvent fuel .programStart arguments).Ends (· = m) fun _ _ => False := by
  obtain ⟨positive, _, _, _, own⟩ := registers
  cases fuel with
  | zero => trivial
  | succ fuel =>
    have none : m.hooks.handlers .programStart = [] := by rw [own]; rfl
    rw [emitEvent_of_nil none]
    rfl

theorem emitEvent_finished (registers : Registers every m.hooks) (fuel : Nat) :
    (m.emitEvent fuel .programEnd []).Ends
      (m.Printed every (endLine "finished" m.log.stepCount m.tape)) fun _ _ => False := by
  obtain ⟨positive, steps, ends, errors, own⟩ := registers
  exact emitEvent_traced ends (registry every positive steps (ends + 1) errors)
    (by rw [own]; rfl) (by rw [own]; rfl) ⟨positive, _, _, _, rfl⟩ (trace_finished _ []) fuel

theorem emitEvent_failed (registers : Registers every m.hooks) (error : RunError) (fuel : Nat) :
    (m.emitEvent fuel .onError [.error error]).Ends
      (m.Printed every (endLine error.kind m.log.stepCount m.tape)) fun _ _ => False := by
  obtain ⟨positive, steps, ends, errors, own⟩ := registers
  exact emitEvent_traced errors (registry every positive steps ends (errors + 1))
    (by rw [own]; rfl) (by rw [own]; rfl) ⟨positive, _, _, _, rfl⟩ (trace_failed _ error) fuel

end Machine

end TapeLang
