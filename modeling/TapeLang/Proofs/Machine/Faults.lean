import TapeLang.Proofs.Machine.Hooked
import TapeLang.Proofs.Machine.Range

/-! By what a run can be stopped, whatever its hooks do.

A failure in the loop, in a reader, in a writer or in a handler becomes a run error on its way out of
the run. Two things keep it from becoming one: a counter without a number, so every part of the run is
shown to leave a number there, and a failure of a handler that cannot be put into words. -/

set_option autoImplicit false

namespace TapeLang

def Program.Targeted (program : Program) : Prop :=
  ∀ inst ∈ program.code, inst.op.IsJump → inst.target ≠ none

theorem Program.mem_of_fetch {program : Program} {pc : Int} {inst : Instruction}
    (fetched : program.fetch pc = .instruction inst) : inst ∈ program.code := by
  unfold fetch at fetched
  split at fetched
  · cases fetched
  · split at fetched <;> cases fetched
    rename_i found
    unfold get? at found
    split at found
    · exact Array.mem_of_getElem? found
    · split at found
      · exact Array.mem_of_getElem? found
      · cases found

/-- The run errors that come out of handlers which take the actions `A`: those that they raise, and
those that a writer raises when they write to it. -/
inductive Raisable (ω : Type) [Writer ω] (A : Action → Prop) : RunError → Prop where
  | error {error : RunError} : A (.raiseRun error) → Raisable ω A error
  | failure {message : String} :
      A (.raise (.raised .run message)) → Raisable ω A (.raised message)
  | writing {cell : Int} {writer : ω} {message : String} : A (.write cell) →
      (Writer.write writer cell).1 = .error (.raised .run message) → Raisable ω A (.raised message)

/-- How handlers which take the actions `A` fail without words: as they are asked to, or with the
writer that they write to. -/
inductive Wordless (ω : Type) [Writer ω] (A : Action → Prop) : Unwritable → Prop where
  | failure {name : String} {why : Unwritable} : A (.raise (.unworded name why)) → Wordless ω A why
  | writing {cell : Int} {writer : ω} {name : String} {why : Unwritable} : A (.write cell) →
      (Writer.write writer cell).1 = .error (.unworded name why) → Wordless ω A why

namespace RunError

def IsOwn (error : RunError) : Prop :=
  error.kind = "PointerOutOfBounds" ∨ error.kind = "IOFailure" ∨
    error.kind = "ExtensionFailure" ∨ error.kind = "Internal"

/-- The same error, except that it may have got the index of a step that it did not have. -/
def Completes (error given : RunError) : Prop :=
  error = given ∨ given.stepIndex = none ∧ ∃ k : Nat, error = { given with stepIndex := some ↑k }

theorem completes_attachStep (error : RunError) (log : StepLog) :
    (error.attachStep log).Completes error := by
  obtain ⟨reason, location, pc, pointer, _ | stepIndex⟩ := error
  · cases last : log.last? with
    | none => exact .inl (by simp [attachStep, last])
    | some entry => exact .inr ⟨rfl, entry.stepIndex, by simp [attachStep, last]⟩
  · exact .inl rfl

def Foreseen (ω : Type) [Writer ω] (A : Action → Prop) (error : RunError) : Prop :=
  error.IsOwn ∨ ∃ given, Raisable ω A given ∧ error.Completes given

variable {ω : Type} [Writer ω] {A : Action → Prop} {error : RunError}

theorem foreseen_of_raisable (raisable : Raisable ω A error) : error.Foreseen ω A :=
  .inr ⟨error, raisable, .inl rfl⟩

theorem Foreseen.attachStep (foreseen : error.Foreseen ω A) (log : StepLog) :
    (error.attachStep log).Foreseen ω A := by
  rcases foreseen with own | ⟨given, raisable, same | ⟨missing, k, same⟩⟩
  · exact .inl own
  · subst same
    exact .inr ⟨error, raisable, completes_attachStep error log⟩
  · subst same
    exact .inr ⟨given, raisable, .inr ⟨missing, k, rfl⟩⟩

end RunError

namespace Fault

def Satisfies (P : RunError → Prop) (Q : Failure → Prop) : Fault → Prop
  | run error => P error
  | failure cause => Q cause

variable {ω : Type} [Writer ω] {A : Action → Prop}

def IsRaisable (ω : Type) [Writer ω] (A : Action → Prop) : Fault → Prop :=
  Satisfies (Raisable ω A) fun failure => ∀ why, failure.message = .error why → Wordless ω A why

theorem isRaisable_ofFailure {failure : Failure}
    (raisable : ∀ message, failure = .raised .run message → Raisable ω A (.raised message))
    (wordless : ∀ name why, failure = .unworded name why → Wordless ω A why) :
    (ofFailure failure).IsRaisable ω A := by
  unfold ofFailure
  split
  · exact raisable _ rfl
  · intro why unworded
    obtain ⟨name, same⟩ := Failure.message_eq_error.mp unworded
    exact wordless name why same

/-- What stops the loop: a run error that was to be expected, or a failure that has words. -/
def IsStop (ω : Type) [Writer ω] (A : Action → Prop) : Fault → Prop :=
  Satisfies (RunError.Foreseen ω A) fun cause => (failure cause).HasWords

/-- A run error that was to be expected, or the lack of words for a handler's failure. -/
def IsForeseen (ω : Type) [Writer ω] (A : Action → Prop) (fault : Fault) : Prop :=
  (∃ error, fault = run error ∧ error.Foreseen ω A) ∨
    ∃ why, fault = failure (.unwritable why) ∧ Wordless ω A why

theorem IsForeseen.isStop {fault : Fault} (foreseen : fault.IsForeseen ω A) : fault.IsStop ω A := by
  rcases foreseen with ⟨error, rfl, foreseen⟩ | ⟨why, rfl, _⟩
  · exact foreseen
  · exact hasWords_unwritable why

end Fault

namespace Machine

variable {ρ ω : Type}

/-- A machine that has not lost its counter and of which the hooks declare nothing but what a given
registry declares. -/
structure Governed (program : Program) (registry : HookRegistry) (m : Machine ρ ω) : Prop where
  program : m.program = program
  counter : m.pc ≠ none
  declared : ∀ action, m.hooks.Declares action → registry.Declares action

variable [Writer ω] {program : Program} {registry : HookRegistry} {m : Machine ρ ω}
  {fuel : Nat} {event : Event} {arguments : List Argument}

theorem Governed.tame (counted : ¬ registry.Declares (.assign (.pc none))) :
    HookHost.Tame registry.Declares (Governed program registry (ρ := ρ) (ω := ω)) fun fault m =>
      m.Governed program registry ∧ fault.IsRaisable ω registry.Declares where
  declared m governed := governed.declared
  recounted m other governed same :=
    ⟨governed.program, governed.counter, fun action declares =>
      governed.declared action (same.declares declares)⟩
  acts m action governed allowed extension id arguments := by
    have kept (next : Machine ρ ω) (acted : m.Acted extension action next) :
        next.Governed program registry := by
      refine ⟨acted.spares.program.trans governed.program, ?_, fun _ declares =>
        acted.declared governed.declared allowed declares⟩
      rcases acted.counter with same | assigned
      · rw [same]
        exact governed.counter
      · intro none
        rw [none] at assigned
        exact counted (assigned ▸ allowed)
    refine (m.act_ends extension id arguments action).imp kept ?_
    rintro fault next ⟨acted, stops⟩
    refine ⟨kept next acted, ?_⟩
    cases stops with
    | raise =>
      exact Fault.isRaisable_ofFailure (fun _ same => .failure (same ▸ allowed))
        fun _ _ same => .failure (same ▸ allowed)
    | raiseRun => exact .error allowed
    | write answered =>
      exact Fault.isRaisable_ofFailure (fun _ same => .writing allowed (same ▸ answered))
        fun _ _ same => .writing allowed (same ▸ answered)
    | failure worded =>
      intro why unworded
      rw [worded] at unworded
      cases unworded

def Stops (program : Program) (registry : HookRegistry) (fault : Fault) (m : Machine ρ ω) : Prop :=
  m.Governed program registry ∧ fault.IsStop ω registry.Declares

section
variable (counted : ¬ registry.Declares (.assign (.pc none)))
include counted

theorem Governed.emitEvent (governed : m.Governed program registry) :
    (m.emitEvent fuel event arguments).Ends (Governed program registry) fun fault m =>
      m.Governed program registry ∧ fault.IsForeseen ω registry.Declares := by
  refine emitEvent_ends (Governed.tame counted) governed ?_ ?_ ?_ ?_
  · rintro error next ⟨governed, raised⟩
    exact ⟨governed, .inl ⟨error, rfl, RunError.foreseen_of_raisable raised⟩⟩
  · rintro failure next ⟨governed, _⟩ _
    exact ⟨governed, .inl ⟨_, rfl, .inl (.inr (.inr (.inl rfl)))⟩⟩
  · rintro failure why next ⟨governed, wordless⟩ unworded
    exact ⟨governed, .inr ⟨why, rfl, wordless why unworded⟩⟩
  · rintro failure next ⟨governed, _⟩ lost
    exact absurd lost governed.counter

-- Within the loop it does not matter where a failure comes from, if it has words.
theorem Governed.tell (governed : m.Governed program registry) :
    (m.emitEvent fuel event arguments).Ends (Governed program registry)
      (Stops program registry) :=
  (governed.emitEvent counted).imp (fun _ kept => kept) fun _ _ stops => ⟨stops.1, stops.2.isStop⟩

theorem Governed.emitStep (governed : m.Governed program registry) (entry : LogEntry) :
    (m.emitStep fuel entry).Ends (Governed program registry) (Stops program registry) := by
  refine emitStep_ends (Governed.tame counted) governed ?_ ?_ ?_
  · rintro error next ⟨governed, raised⟩
    exact ⟨governed, RunError.foreseen_of_raisable raised⟩
  · rintro failure next ⟨governed, _⟩
    exact ⟨governed, .inl (.inr (.inr (.inl rfl)))⟩
  · rintro failure why next ⟨governed, _⟩ _
    exact ⟨governed, Fault.hasWords_unwritable why⟩

end

def EndsForeseen (registry : HookRegistry) (outcome : Outcome Fault (Machine ρ ω)) : Prop :=
  outcome.Ends (fun _ => True) fun fault _ => fault.IsForeseen ω registry.Declares

section
variable (counted : ¬ registry.Declares (.assign (.pc none)))
include counted

theorem Governed.raise (governed : m.Governed program registry) {error : RunError}
    (foreseen : error.Foreseen ω registry.Declares) :
    EndsForeseen registry (m.raise fuel error) := by
  have told : (m.emitEvent fuel .onError [.error (error.attachStep m.log)]).Ends
      (Governed program registry) fun fault _ => fault.IsForeseen ω registry.Declares :=
    (governed.emitEvent counted).imp (fun _ kept => kept) fun _ _ stops => stops.2
  exact told.next fun next _ => .inl ⟨_, rfl, foreseen.attachStep m.log⟩

theorem endsForeseen_conclude {outcome : Outcome Fault (Machine ρ ω)}
    (ends : outcome.Ends (Governed program registry) (Stops program registry)) :
    EndsForeseen registry (conclude fuel outcome) := by
  cases outcome with
  | done m =>
    exact (Governed.emitEvent counted ends).imp (fun _ _ => trivial) fun _ _ stops => stops.2
  | stopped fault m =>
    obtain ⟨governed, foreseen⟩ := ends
    cases fault with
    | run error => exact governed.raise counted foreseen
    | failure failure =>
      obtain ⟨message, worded⟩ := foreseen
      simp only [conclude]
      rcases m.refuse_cases (.internal failure) with
        ⟨_, told⟩ | ⟨why, unworded, _⟩ | ⟨lost, _⟩
      · rw [told]
        exact governed.raise counted (.inl (.inr (.inr (.inr rfl))))
      · rw [Reason.message_eq_error (.inr (.inr (.inr rfl))), worded] at unworded
        cases unworded
      · exact absurd lost governed.counter
  | exhausted => trivial

end

variable [Reader ρ]

section
variable (targeted : program.Targeted)
include targeted

theorem Governed.perform {inst : Instruction} (member : inst ∈ program.code)
    (governed : m.Governed program registry) :
    (m.perform inst).Ends (Governed program registry) (Stops program registry) := by
  obtain ⟨sameProgram, counter, declared⟩ := governed
  refine (perform_effect inst m).imp ?_ ?_
  · rintro next ⟨tape, pointer, pc, reader, writer, rfl, _, rfl | ⟨isJump, rfl⟩⟩
    · exact ⟨sameProgram, counter, declared⟩
    · exact ⟨sameProgram, targeted inst member isJump, declared⟩
  · rintro fault next ⟨reader, writer, rfl, ⟨rfl, _⟩ | ⟨reason, rfl, kind⟩⟩
    · exact ⟨⟨sameProgram, counter, declared⟩, _, rfl⟩
    · refine ⟨⟨sameProgram, counter, declared⟩, ?_⟩
      rcases m.refuse_cases reason with ⟨_, told⟩ | ⟨why, _, untold⟩ | ⟨lost, _⟩
      · rw [told]
        exact .inl (kind.imp id .inl)
      · rw [untold]
        exact Fault.hasWords_unwritable why
      · exact absurd lost counter

variable (counted : ¬ registry.Declares (.assign (.pc none))) (gates : Gates)
include counted

theorem Governed.step {inst : Instruction} (member : inst ∈ program.code)
    (governed : m.Governed program registry) :
    (m.step fuel gates inst).Ends (Governed program registry) (Stops program registry) := by
  refine step_ends (fun _ _ worded governed => ⟨governed, worded⟩) (fun _ governed => governed.tell counted)
    ?_ (fun _ entry governed => governed.emitStep counted entry) ?_ governed
  · rintro m entry governed -
    have logged : (m.recordStep entry).Governed program registry :=
      ⟨governed.program, governed.counter, governed.declared⟩
    exact logged.perform targeted member
  · exact fun _ _ governed => ⟨governed.program, nofun, governed.declared⟩

theorem Governed.execute (governed : m.Governed program registry) :
    (execute gates fuel m).Ends (Governed program registry) (Stops program registry) := by
  refine execute_ends (fun _ _ worded governed => ⟨governed, worded⟩) ?_ governed
  intro fuel m pc inst governed fetched
  rw [governed.program] at fetched
  exact governed.step targeted counted gates (Program.mem_of_fetch fetched)

theorem Governed.start (governed : m.Governed program registry) :
    (m.start fuel).Ends (Governed program registry) (Stops program registry) :=
  (governed.tell counted).next fun _ governed => governed.execute targeted counted _

end

omit [Reader ρ] [Writer ω] in
theorem governed_of_reset {fresh : Machine ρ ω} (ready : m.reset = .ok fresh) :
    fresh.Governed m.program m.hooks := by
  unfold reset at ready
  split at ready <;> cases ready
  exact ⟨rfl, nofun, fun _ declares => declares⟩

/-- A run that ends returns or is stopped by a run error, if jumps have targets and handlers put only
numbers into the counter. The error is the machine's own, or it came out of a handler. There is a third
way only if a handler fails without words. -/
theorem run_foreseen {m : Machine ρ ω} (targeted : m.program.Targeted)
    (counted : ¬ m.hooks.Declares (.assign (.pc none))) {capacity : Option Nat}
    (valid : StepLog.capacity m.history = .ok capacity) {fuel : Nat}
    (ends : m.run fuel ≠ .exhausted) :
    (∃ state, m.run fuel = .done state) ∨
      (∃ error state, m.run fuel = .stopped (.run error) state ∧
        (error.IsOwn ∨ ∃ given, Raisable ω m.hooks.Declares given ∧ error.Completes given)) ∨
      ∃ why state, m.run fuel = .stopped (.failure (.unwritable why)) state ∧
        Wordless ω m.hooks.Declares why := by
  have governed : Governed m.program m.hooks
      { m.rewind with log := StepLog.empty m.verbose capacity } :=
    ⟨rfl, nofun, fun _ declares => declares⟩
  have foreseen : EndsForeseen m.hooks (m.run fuel) := by
    simp only [run, reset, valid]
    apply endsForeseen_conclude counted
    exact (governed.tell counted).next fun next governed =>
      governed.execute targeted counted _
  cases ended : m.run fuel with
  | done state => exact .inl ⟨state, rfl⟩
  | stopped fault state =>
    rw [ended] at foreseen
    rcases foreseen with ⟨error, rfl, origin⟩ | ⟨why, rfl, wordless⟩
    · exact .inr (.inl ⟨error, state, rfl, origin⟩)
    · exact .inr (.inr ⟨why, state, rfl, wordless⟩)
  | exhausted => exact absurd ended ends

/-- Before a step the pointer is lost, and the error that this leads to is replaced by another. -/
def stray : Machine ScriptReader BufferWriter where
  program := { code := #[⟨.moveRight, none⟩, ⟨.jumpIfZero, some (-7)⟩] }
  reader := {}
  writer := {}
  hooks :=
    { beforeStep := [⟨0, "t", { id := "lose", tasks := [.mk (some 1) (.assign (.pointer (-30001)))] }⟩]
      onError := [⟨0, "t", { id := "replace", tasks := [.mk none (.raiseRun
        { reason := .given "Custom" "lost" })] }⟩] }

theorem stray_foreseen :
    stray.program.Targeted ∧ ¬ stray.hooks.Declares (.assign (.pc none)) ∧
      StepLog.capacity stray.history = .ok (some 16) ∧ stray.run 5 ≠ .exhausted ∧
      ∃ error state, stray.run 5 = .stopped (.run error) state ∧ error.kind = "Custom" ∧
        ∃ given, Raisable BufferWriter stray.hooks.Declares given ∧ error.Completes given := by
  have targeted : stray.program.Targeted := by
    intro inst member isJump
    simp [stray] at member
    rcases member with rfl | rfl
    · cases isJump <;> contradiction
    · exact nofun
  have counted : ¬ stray.hooks.Declares (.assign (.pc none)) := by
    simp [stray, HookRegistry.declares_iff]
  have valid : StepLog.capacity stray.history = .ok (some 16) := rfl
  obtain ⟨error, state, stopped, kind⟩ : ∃ error state,
      stray.run 5 = .stopped (.run error) state ∧ error.kind = "Custom" := ⟨_, _, rfl, rfl⟩
  have ends : stray.run 5 ≠ .exhausted := by simp [stopped]
  refine ⟨targeted, counted, valid, ends, error, state, stopped, kind, ?_⟩
  rcases run_foreseen targeted counted valid ends with
    ⟨final, returned⟩ | ⟨other, final, same, origin⟩ | ⟨why, final, wordless, _⟩
  · rw [stopped] at returned
    cases returned
  · rw [stopped] at same
    cases same
    rcases origin with own | handled
    · simp [RunError.IsOwn, kind] at own
    · exact handled
  · rw [stopped] at wordless
    cases wordless

def speechless : Machine ScriptReader BufferWriter where
  program := { code := #[⟨.increment, none⟩] }
  reader := {}
  writer := {}
  hooks :=
    { programEnd := [⟨0, "t", { id := "mute", tasks := [.mk none (.raise
        (.unworded "ValueError" .tooManyDigits))] }⟩] }

def jammed : Machine ScriptReader (FaultyWriter BufferWriter) where
  program := { code := #[⟨.increment, none⟩] }
  reader := {}
  writer := { inner := {}, fault := some (0, .raised .run "jam") }
  hooks := { programStart := [⟨0, "t", { id := "print", tasks := [.mk none (.write 65)] }⟩] }

/-- A failure gets out of a run, and so does a run error that no handler has raised. -/
theorem unforeseen_stops :
    (speechless.program.Targeted ∧ ¬ speechless.hooks.Declares (.assign (.pc none)) ∧
      StepLog.capacity speechless.history = .ok (some 16) ∧ ∃ failure state,
        speechless.run 5 = .stopped (.failure failure) state ∧ failure.name = "ValueError") ∧
    jammed.program.Targeted ∧ ¬ jammed.hooks.Declares (.assign (.pc none)) ∧
      StepLog.capacity jammed.history = .ok (some 16) ∧ ∃ error state,
        jammed.run 5 = .stopped (.run error) state ∧ ¬ error.IsOwn ∧
          (∀ given, ¬ jammed.hooks.Declares (.raiseRun given)) ∧
          ∀ failure, ¬ jammed.hooks.Declares (.raise failure) := by
  have targeted : Program.Targeted { code := #[⟨.increment, none⟩] } := by
    intro inst member isJump
    simp at member
    subst member
    cases isJump <;> contradiction
  refine ⟨⟨targeted, ?_, rfl, _, _, rfl, rfl⟩, targeted, ?_, rfl, _, _, rfl, ?_, ?_, ?_⟩
  · simp [speechless, HookRegistry.declares_iff]
  · simp [jammed, HookRegistry.declares_iff]
  · simp [RunError.IsOwn, RunError.kind, RunError.attachStep, RunError.raised, Reason.kind]
  · simp [jammed, HookRegistry.declares_iff]
  · simp [jammed, HookRegistry.declares_iff]

end Machine

end TapeLang
