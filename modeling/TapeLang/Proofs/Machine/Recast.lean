import TapeLang.Proofs.Hook.Carried
import TapeLang.Proofs.Machine.Effect

/-! Changes of a machine that its runs do not notice.

The channels may be exchanged for others that answer alike, and what hooks have written may be put
behind what has been written before. Neither is seen by instructions or hooks, so a run of the changed
machine is the changed run. -/

set_option autoImplicit false

namespace TapeLang

namespace Machine

variable {ρ ω σ τ : Type} [Reader ρ] [Writer ω] [Reader σ] [Writer τ]

/-- Channels that answer as others do, and what hooks have written before. -/
structure Recast (ρ ω σ τ : Type) [Reader ρ] [Writer ω] [Reader σ] [Writer τ] where
  reader : ρ → σ
  writer : ω → τ
  journal : Array JournalEntry := #[]
  diagnostics : Array String := #[]
  reads : ∀ r, Reader.read (reader r) = ((Reader.read r).1, reader (Reader.read r).2)
  writes : ∀ w cell,
    Writer.write (writer w) cell = ((Writer.write w cell).1, writer (Writer.write w cell).2)

theorem reads_id (r : ρ) : Reader.read (id r) = ((Reader.read r).1, id (Reader.read r).2) := rfl

theorem writes_id (w : ω) (cell : Int) :
    Writer.write (id w) cell = ((Writer.write w cell).1, id (Writer.write w cell).2) := rfl

namespace Recast

def apply (cast : Recast ρ ω σ τ) (m : Machine ρ ω) : Machine σ τ :=
  { m with
    reader := cast.reader m.reader
    writer := cast.writer m.writer
    journal := cast.journal ++ m.journal
    diagnostics := cast.diagnostics ++ m.diagnostics }

variable (cast : Recast ρ ω σ τ) (m : Machine ρ ω)

section

@[simp] theorem program_apply : (cast.apply m).program = m.program := rfl

@[simp] theorem reader_apply : (cast.apply m).reader = cast.reader m.reader := rfl

@[simp] theorem writer_apply : (cast.apply m).writer = cast.writer m.writer := rfl

@[simp] theorem history_apply : (cast.apply m).history = m.history := rfl

@[simp] theorem pointer_apply : (cast.apply m).pointer = m.pointer := rfl

@[simp] theorem pc_apply : (cast.apply m).pc = m.pc := rfl

@[simp] theorem log_apply : (cast.apply m).log = m.log := rfl

@[simp] theorem cell?_apply : (cast.apply m).cell? = m.cell? := rfl

@[simp] theorem refuse_apply (reason : Reason) : (cast.apply m).refuse reason = m.refuse reason := rfl

@[simp] theorem entryFor_apply (inst : Instruction) :
    (cast.apply m).entryFor inst = m.entryFor inst := rfl

@[simp] theorem recordStep_apply (entry : LogEntry) :
    (cast.apply m).recordStep entry = cast.apply (m.recordStep entry) := rfl

/-! ## Actions of hooks -/

theorem record_apply (id : String) (arguments : List Argument) :
    (cast.apply m).record id arguments = cast.apply (m.record id arguments) := by
  simp only [record, apply, Array.append_push]
  rfl

theorem print_apply (line : String) :
    (cast.apply m).print line = cast.apply (m.print line) := by
  simp only [print, apply, Array.append_push]

theorem trace_apply (line : TraceLine) (arguments : List Argument) :
    (cast.apply m).trace line arguments = (m.trace line arguments).map cast.apply := by
  simp only [trace, cell?_apply, print_apply]
  split
  · cases m.cell? <;> rfl
  · rfl
  · rfl
  · rfl

theorem storeCell_apply (value : Int) :
    (cast.apply m).storeCell value = (m.storeCell value).map cast.apply := by
  simp only [storeCell, pointer_apply]
  cases Tape.position? m.pointer with
  | none => rfl
  | some k =>
    dsimp only
    split <;> rfl

theorem send_apply (cell : Int) :
    (cast.apply m).send cell = ((m.send cell).1, cast.apply (m.send cell).2) := by
  rw [send_eq, send_eq, writer_apply, cast.writes]
  rfl

theorem writeCell_apply (cell : Int) :
    (cast.apply m).writeCell cell = (m.writeCell cell).map cast.apply := by
  rw [writeCell, writeCell, send_apply]
  rcases m.send cell with ⟨_ | _, next⟩ <;> rfl

omit [Reader ρ] [Writer ω] [Reader σ] [Writer τ] in
theorem stop_map {f : Machine ρ ω → Machine σ τ} (outcome : Outcome Failure (Machine ρ ω)) :
    HookHost.stop (outcome.map f) = (HookHost.stop outcome).map f := by
  cases outcome <;> rfl

theorem carries : HookHost.Carries cast.apply where
  hooks _ := rfl
  setHooks _ _ := rfl
  acts m extension id arguments action := by
    cases action with
    | log => exact congrArg Outcome.done (cast.record_apply m id arguments)
    | raise | raiseRun => rfl
    | assign assignment =>
      cases assignment with
      | pc | pointer | verbose => rfl
      | cell value =>
        show HookHost.stop ((cast.apply m).storeCell value) = _
        rw [storeCell_apply, stop_map]
        rfl
    | write cell =>
      show HookHost.stop ((cast.apply m).writeCell cell) = _
      rw [writeCell_apply, stop_map]
      rfl
    | register hook =>
      have same : HookHost.hooks (cast.apply m) = HookHost.hooks m := rfl
      simp only [HookHost.perform, same]
      cases (HookHost.hooks m).register extension hook <;> rfl
    | trace line =>
      show HookHost.stop ((cast.apply m).trace line arguments) = _
      rw [trace_apply, stop_map]
      rfl

end

/-! ## Instructions -/

theorem changeCell_apply (change : UInt8 → UInt8) :
    (cast.apply m).changeCell change = (m.changeCell change).map cast.apply := by
  simp only [changeCell, pointer_apply]
  split <;> rfl

theorem move_apply (direction : Direction) :
    (cast.apply m).move direction = (m.move direction).map cast.apply := by
  simp only [move, pointer_apply, apply_ite (Outcome.map cast.apply)]
  rfl

theorem jumpIf_apply (test : UInt8 → Bool) (target : Option Int) :
    (cast.apply m).jumpIf test target = (m.jumpIf test target).map cast.apply := by
  simp only [jumpIf, cell?_apply]
  split
  · rfl
  · split <;> rfl

theorem output_apply : (cast.apply m).output = m.output.map cast.apply := by
  simp only [output, cell?_apply, send_apply]
  split
  · rfl
  · rename_i cell _
    rcases m.send ↑cell.toNat with ⟨_ | _, next⟩ <;> rfl

theorem input_apply : (cast.apply m).input = m.input.map cast.apply := by
  simp only [input, reader_apply, cast.reads, pointer_apply]
  rcases Reader.read m.reader with ⟨_ | value, next⟩
  · rfl
  · dsimp only
    split
    · rfl
    · split <;> rfl

theorem perform_apply (inst : Instruction) :
    (cast.apply m).perform inst = (m.perform inst).map cast.apply := by
  unfold perform
  split
  · exact cast.changeCell_apply m _
  · exact cast.changeCell_apply m _
  · exact cast.move_apply m .right
  · exact cast.move_apply m .left
  · exact cast.jumpIf_apply m _ _
  · exact cast.jumpIf_apply m _ _
  · exact cast.output_apply m
  · exact cast.input_apply m
  · rfl

theorem advance_apply : (cast.apply m).advance = m.advance.map cast.apply := by
  simp only [advance, pc_apply]
  cases m.pc <;> rfl

/-! ## Runs -/

variable (fuel : Nat)

theorem emitEvent_apply (event : Event) (arguments : List Argument) :
    (cast.apply m).emitEvent fuel event arguments =
      (m.emitEvent fuel event arguments).map cast.apply := by
  simp only [emitEvent, cast.carries.emit]
  cases HookHost.emit fuel event arguments m with
  | stopped fault next => cases fault <;> rfl
  | done | exhausted => rfl

theorem emitStep_apply (entry : LogEntry) :
    (cast.apply m).emitStep fuel entry = (m.emitStep fuel entry).map cast.apply := by
  simp only [emitStep, cast.carries.afterStep, pointer_apply]
  cases HookHost.afterStep fuel _ m with
  | stopped fault next => cases fault <;> rfl
  | done | exhausted => rfl

theorem step_apply (gates : Gates) (inst : Instruction) :
    (cast.apply m).step fuel gates inst = (m.step fuel gates inst).map cast.apply := by
  have told : (if gates.beforeStep then (cast.apply m).emitEvent fuel .beforeStep [.instruction inst]
      else .done (cast.apply m)) = (if gates.beforeStep then
        m.emitEvent fuel .beforeStep [.instruction inst] else .done m).map cast.apply := by
    split
    · exact cast.emitEvent_apply m fuel _ _
    · rfl
  have ruled (entry : LogEntry) (m : Machine ρ ω) : (if gates.rules
      then (cast.apply m).emitStep fuel entry else .done (cast.apply m)) =
        (if gates.rules then m.emitStep fuel entry else .done m).map cast.apply := by
    split
    · exact cast.emitStep_apply m fuel entry
    · rfl
  unfold step
  rw [told]
  refine Outcome.next_map fun m => ?_
  rw [entryFor_apply]
  cases m.entryFor inst with
  | error failure => rfl
  | ok entry =>
    dsimp only
    rw [recordStep_apply, perform_apply]
    refine Outcome.next_map fun m => ?_
    rw [ruled]
    exact Outcome.next_map cast.advance_apply

theorem execute_apply (gates : Gates) :
    execute gates fuel (cast.apply m) = (execute gates fuel m).map cast.apply := by
  induction fuel generalizing m with
  | zero => rfl
  | succ fuel ih =>
    rw [execute_succ_next, execute_succ_next, pc_apply, program_apply]
    cases m.pc with
    | none => rfl
    | some pc =>
      dsimp only
      cases m.program.fetch pc with
      | finished | outside => rfl
      | instruction inst =>
        dsimp only
        rw [step_apply]
        exact Outcome.next_map ih

theorem start_apply : (cast.apply m).start fuel = (m.start fuel).map cast.apply := by
  simp only [start, program_apply, emitEvent_apply]
  exact Outcome.next_map fun m => cast.execute_apply m fuel m.hooks.gates

theorem raise_apply (error : RunError) :
    (cast.apply m).raise fuel error = (m.raise fuel error).map cast.apply := by
  simp only [raise, log_apply, emitEvent_apply]
  exact Outcome.next_map fun _ => rfl

theorem conclude_apply (outcome : Outcome Fault (Machine ρ ω)) :
    conclude fuel (outcome.map cast.apply) = (conclude fuel outcome).map cast.apply := by
  cases outcome with
  | done m => exact cast.emitEvent_apply m fuel _ _
  | stopped fault m =>
    cases fault with
    | run error => exact cast.raise_apply m fuel error
    | failure failure =>
      simp only [Outcome.map, conclude, refuse_apply]
      cases m.refuse (.internal failure) with
      | run error => exact cast.raise_apply m fuel error
      | failure failure => rfl
  | exhausted => rfl

theorem reset_apply : (cast.apply m).reset = m.reset.map cast.apply := by
  simp only [reset, history_apply]
  cases StepLog.capacity m.history <;> rfl

/-- A run of the changed machine is the changed run. -/
theorem run_apply : (cast.apply m).run fuel = (m.run fuel).map cast.apply := by
  unfold run
  rw [reset_apply]
  cases m.reset with
  | error failure => rfl
  | ok fresh => simp only [Except.map, start_apply, conclude_apply]

end Recast

end Machine

end TapeLang
