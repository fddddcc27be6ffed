import TapeLang.Proofs.Hook.Calls
import TapeLang.Proofs.Hook.Rounds
import TapeLang.Proofs.Machine.Effect

/-! What hooks can do to a machine.

Handlers act on the parts of a machine that can be assigned, on its writer, on its registry and on what
is printed and noted. Its program, its reader and its log are left to the machine itself. -/

set_option autoImplicit false

namespace TapeLang

/-- A registration is rejected with words. -/
theorem HookRegistry.exists_message_of_register {registry : HookRegistry} {extension : String}
    {hook : Hook} {failure : Failure} (rejected : registry.register extension hook = .error failure) :
    ∃ message, failure.message = .ok message := by
  cases hook with
  | event =>
    simp only [register, enterIn_eq, onEvent] at rejected
    split at rejected <;> cases rejected
    exact ⟨_, rfl⟩
  | rule =>
    simp only [register, enterIn_eq, everySteps] at rejected
    split at rejected <;> cases rejected
    exact ⟨_, rfl⟩

namespace Machine

variable {ρ ω : Type}

structure Spares (m next : Machine ρ ω) : Prop where
  program : next.program = m.program
  reader : next.reader = m.reader
  history : next.history = m.history
  log : next.log = m.log

theorem Spares.refl (m : Machine ρ ω) : m.Spares m := ⟨rfl, rfl, rfl, rfl⟩

theorem Spares.trans {first second third : Machine ρ ω} (left : first.Spares second)
    (right : second.Spares third) : first.Spares third where
  program := right.program.trans left.program
  reader := right.reader.trans left.reader
  history := right.history.trans left.history
  log := right.log.trans left.log

/-- What an action of an extension leaves behind: each part is as it was, unless the action is of the
kind that changes it. -/
structure Acted (m : Machine ρ ω) (extension : String) (action : Action) (next : Machine ρ ω) :
    Prop where
  spares : m.Spares next
  hooks : next.hooks = m.hooks ∨
    ∃ hook, action = .register hook ∧ m.hooks.register extension hook = .ok next.hooks
  counter : next.pc = m.pc ∨ action = .assign (.pc next.pc)
  pointer : next.pointer = m.pointer ∨ action = .assign (.pointer next.pointer)
  verbose : next.verbose = m.verbose ∨ action = .assign (.verbose next.verbose)
  tape : next.tape = m.tape ∨ ∃ cell, action = .assign (.cell cell)
  writer : next.writer = m.writer ∨ ∃ cell, action = .write cell

/-- How an action stops its handler: as it is asked to, by the failure of the writer that it writes to,
or by a failure of the machine's, which is no run error and has words. -/
inductive ActStops (ω : Type) [Writer ω] : Action → Fault → Prop where
  | raise {failure : Failure} : ActStops ω (.raise failure) (.ofFailure failure)
  | raiseRun {error : RunError} : ActStops ω (.raiseRun error) (.run error)
  | write {cell : Int} {writer : ω} {failure : Failure} :
      (Writer.write writer cell).1 = .error failure → ActStops ω (.write cell) (.ofFailure failure)
  | failure {action : Action} {failure : Failure} {message : String} :
      failure.message = .ok message → ActStops ω action (.failure failure)

theorem acted_self (m : Machine ρ ω) (extension : String) (action : Action) :
    m.Acted extension action m :=
  ⟨.refl m, .inl rfl, .inl rfl, .inl rfl, .inl rfl, .inl rfl, .inl rfl⟩

-- Nothing comes to be declared that the action does not declare.
theorem Acted.declared {m next : Machine ρ ω} {extension : String} {action : Action}
    {registry : HookRegistry} (acted : m.Acted extension action next)
    (declared : ∀ other, m.hooks.Declares other → registry.Declares other)
    (allowed : registry.Declares action) {other : Action} (declares : next.hooks.Declares other) :
    registry.Declares other := by
  rcases acted.hooks with same | ⟨hook, rfl, entered⟩
  · exact declared other (same ▸ declares)
  · rcases HookRegistry.declares_of_register entered declares with before | inside
    · exact declared other before
    · exact allowed.of_registered inside

variable [Writer ω]

theorem act_ends (m : Machine ρ ω) (extension id : String) (arguments : List Argument)
    (action : Action) :
    (HookHost.perform extension id arguments m action).Ends (m.Acted extension action)
      fun fault next => m.Acted extension action next ∧ ActStops ω action fault := by
  have noted (journal : Array JournalEntry) (diagnostics : Array String) :
      m.Acted extension action { m with journal, diagnostics } :=
    ⟨⟨rfl, rfl, rfl, rfl⟩, .inl rfl, .inl rfl, .inl rfl, .inl rfl, .inl rfl, .inl rfl⟩
  have same := m.acted_self extension action
  cases action with
  | log => exact noted _ _
  | raise failure => exact ⟨same, .raise⟩
  | raiseRun error => exact ⟨same, .raiseRun⟩
  | assign assignment =>
    cases assignment with
    | pc value =>
      exact ⟨⟨rfl, rfl, rfl, rfl⟩, .inl rfl, .inr rfl, .inl rfl, .inl rfl, .inl rfl, .inl rfl⟩
    | pointer value =>
      exact ⟨⟨rfl, rfl, rfl, rfl⟩, .inl rfl, .inl rfl, .inr rfl, .inl rfl, .inl rfl, .inl rfl⟩
    | verbose value =>
      exact ⟨⟨rfl, rfl, rfl, rfl⟩, .inl rfl, .inl rfl, .inl rfl, .inr rfl, .inl rfl, .inl rfl⟩
    | cell value =>
      show (HookHost.stop (m.storeCell value)).Ends _ _
      unfold storeCell
      split
      · exact ⟨same, .failure rfl⟩
      · split
        · exact ⟨⟨rfl, rfl, rfl, rfl⟩, .inl rfl, .inl rfl, .inl rfl, .inl rfl, .inr ⟨_, rfl⟩, .inl rfl⟩
        · exact ⟨same, .failure rfl⟩
  | write cell =>
    have wrote (writer : ω) : m.Acted extension (.write cell) { m with writer } :=
      ⟨⟨rfl, rfl, rfl, rfl⟩, .inl rfl, .inl rfl, .inl rfl, .inl rfl, .inl rfl, .inr ⟨_, rfl⟩⟩
    show (HookHost.stop (m.writeCell cell)).Ends _ _
    rw [writeCell, send_eq]
    rcases answered : Writer.write m.writer cell with ⟨failure | _, writer⟩
    · exact ⟨wrote writer, .write (congrArg Prod.fst answered)⟩
    · exact wrote writer
  | register hook =>
    unfold HookHost.perform
    dsimp only
    split
    · rename_i registry entered
      exact ⟨⟨rfl, rfl, rfl, rfl⟩, .inr ⟨hook, rfl, entered⟩, .inl rfl, .inl rfl, .inl rfl, .inl rfl,
        .inl rfl⟩
    · rename_i rejected
      obtain ⟨message, worded⟩ := HookRegistry.exists_message_of_register rejected
      exact ⟨same, .failure worded⟩
  | trace line =>
    show (HookHost.stop (m.trace line arguments)).Ends _ _
    unfold Machine.trace
    split
    · split
      · exact ⟨same, .failure rfl⟩
      · exact noted _ _
    · exact noted _ _
    · exact noted _ _
    · exact same

instance : LawfulHookHost (Machine ρ ω) where
  hooks_setHooks _ _ := rfl
  hooks_perform m extension id arguments action other := by
    refine (m.act_ends extension id arguments action).imp ?_ fun _ _ _ => trivial
    intro next acted
    rcases acted.hooks with same | ⟨hook, registers, _⟩
    · exact same
    · exact absurd registers (other hook)

theorem Spares.tame (m : Machine ρ ω) :
    HookHost.Tame (fun _ => True) m.Spares fun _ => m.Spares where
  declared _ _ _ _ := trivial
  recounted _ _ spared _ := ⟨spared.program, spared.reader, spared.history, spared.log⟩
  acts next action spared _ extension id arguments :=
    (next.act_ends extension id arguments action).imp (fun _ acted => spared.trans acted.spares)
      fun _ _ acted => spared.trans acted.1.spares

section
variable {A : Action → Prop} {P : Machine ρ ω → Prop} {Q R : Fault → Machine ρ ω → Prop}
  {m : Machine ρ ω} {fuel : Nat} (tame : HookHost.Tame A P Q) (holds : P m)
  (kept : ∀ error next, Q (.run error) next → R (.run error) next)
include tame holds kept

/-- A run error goes through a call of handlers as it is, and a failure becomes an error at the
present instruction, if it has words and there is a counter. -/
theorem emitEvent_ends {event : Event} {arguments : List Argument}
    (failed : ∀ failure next, Q (.failure failure) next → next.pc ≠ none →
      R (.run (next.errorHere (.hookFailed event failure))) next)
    (untold : ∀ failure why next, Q (.failure failure) next → failure.message = .error why →
      R (.failure (.unwritable why)) next)
    (lost : ∀ failure next, Q (.failure failure) next → next.pc = none →
      R (.failure .noCounter) next) : (m.emitEvent fuel event arguments).Ends P R := by
  have called : (HookHost.emit fuel event arguments m).Ends P Q := tame.emit holds
  unfold Machine.emitEvent
  cases emitted : HookHost.emit fuel event arguments m with
  | done next =>
    rw [emitted] at called
    exact called
  | stopped fault next =>
    rw [emitted] at called
    cases fault with
    | run error => exact kept error next called
    | failure failure =>
      rcases next.refuse_cases (.hookFailed event failure) with
        ⟨counter, told⟩ | ⟨why, worded, refused⟩ | ⟨counter, refused⟩
      · show R (next.refuse _) next
        rw [told]
        exact failed failure next called counter
      · have wordless := (Reason.message_eq_error (.inr (.inl ⟨event, rfl⟩))).mp worded
        show R (next.refuse _) next
        rw [refused]
        exact untold failure why next called wordless
      · show R (next.refuse _) next
        rw [refused]
        exact lost failure next called counter
  | exhausted => trivial

/-- A failure of a step rule becomes an error at the instruction that has been taken, if it has
words. -/
theorem emitStep_ends {entry : LogEntry}
    (failed : ∀ failure next, Q (.failure failure) next →
      R (.run { reason := .ruleFailed failure, location := entry.location, pc := some entry.pc
                pointer := some next.pointer }) next)
    (untold : ∀ failure why next, Q (.failure failure) next → failure.message = .error why →
      R (.failure (.unwritable why)) next) :
    (m.emitStep fuel entry).Ends P R := by
  unfold Machine.emitStep
  generalize StepContext.mk entry.stepIndex entry.pc entry.op m.pointer entry.location = context
  have called : (HookHost.afterStep fuel context m).Ends P Q := tame.afterStep holds
  cases emitted : HookHost.afterStep fuel context m with
  | done next =>
    rw [emitted] at called
    exact called
  | stopped fault next =>
    rw [emitted] at called
    cases fault with
    | run error => exact kept error next called
    | failure failure =>
      rcases Fault.ofError_cases { reason := .ruleFailed failure, location := entry.location
                                   pc := some entry.pc, pointer := some next.pointer } with
        told | ⟨why, worded, refused⟩
      · show R (.ofError _) next
        rw [told]
        exact failed failure next called
      · have wordless := (Reason.message_eq_error (.inr (.inr (.inl rfl)))).mp worded
        show R (.ofError _) next
        rw [refused]
        exact untold failure why next called wordless
  | exhausted => trivial

end

variable (fuel : Nat) (m : Machine ρ ω)

theorem emitEvent_hasWords (event : Event) (arguments : List Argument) :
    (m.emitEvent fuel event arguments).Ends (fun _ => True) fun fault _ => fault.HasWords := by
  have told : (m.emitEvent fuel event arguments).Ends m.Spares fun fault _ => fault.HasWords :=
    emitEvent_ends (Spares.tame m) (.refl m) (fun _ _ _ => trivial) (fun _ _ _ _ => trivial)
      (fun _ why _ _ _ => Fault.hasWords_unwritable why) fun _ _ _ _ => ⟨_, rfl⟩
  exact told.imp (fun _ _ => trivial) fun _ _ words => words

theorem emitStep_hasWords (entry : LogEntry) :
    (m.emitStep fuel entry).Ends (fun _ => True) fun fault _ => fault.HasWords := by
  have told : (m.emitStep fuel entry).Ends m.Spares fun fault _ => fault.HasWords :=
    emitStep_ends (Spares.tame m) (.refl m) (fun _ _ _ => trivial) (fun _ _ _ => trivial)
      fun _ why _ _ _ => Fault.hasWords_unwritable why
  exact told.imp (fun _ _ => trivial) fun _ _ words => words

/-- Whatever stops a run before its end, there are words for it. -/
theorem start_hasWords [Reader ρ] :
    (m.start fuel).Ends (fun _ => True) fun fault _ => fault.HasWords := by
  refine (emitEvent_hasWords fuel m _ _).next fun m _ => ?_
  refine execute_ends (fun _ _ words _ => words) (fun fuel m pc inst _ _ => ?_) trivial
  refine step_ends (fun _ _ words _ => words) (fun m _ => emitEvent_hasWords fuel m _ _) ?_
    (fun m entry _ => emitStep_hasWords fuel m entry) (fun _ _ _ => trivial) trivial
  intro m entry _ _
  refine (perform_effect inst (m.recordStep entry)).imp (fun _ _ => trivial) ?_
  rintro fault next ⟨_, _, _, ⟨rfl, _⟩ | ⟨reason, rfl, _⟩⟩
  · exact ⟨_, rfl⟩
  · exact hasWords_refuse _ reason

theorem emitEvent_spares (event : Event) (arguments : List Argument) :
    (m.emitEvent fuel event arguments).Ends m.Spares fun _ => m.Spares :=
  emitEvent_ends (Spares.tame m) (.refl m) (fun _ _ spared => spared) (fun _ _ spared _ => spared)
    (fun _ _ _ spared _ => spared) fun _ _ spared _ => spared

theorem emitStep_spares (entry : LogEntry) :
    (m.emitStep fuel entry).Ends m.Spares fun _ => m.Spares :=
  emitStep_ends (Spares.tame m) (.refl m) (fun _ _ spared => spared) (fun _ _ spared => spared)
    fun _ _ _ spared _ => spared

end Machine

end TapeLang
