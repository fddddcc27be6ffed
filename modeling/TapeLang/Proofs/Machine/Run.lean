import TapeLang.Proofs.Machine.Turn

/-! Whole runs without hooks.

A machine as it is created is ready to run. Nothing is told of its run, so the run is its loop, and
an error that stops the loop only gets the index of the last logged step. -/

set_option autoImplicit false

namespace TapeLang

namespace Machine

variable {ρ ω : Type}

structure Fresh (m : Machine ρ ω) : Prop where
  reset : m.reset = .ok m
  hooks : m.hooks = {}

structure Initial (m : Machine ρ ω) : Prop where
  tape : m.tape = Tape.blank
  pointer : m.pointer = 0
  counter : m.pc = some 0
  stepCount : m.log.stepCount = 0

theorem initial_of_reset {m fresh : Machine ρ ω} (reset : m.reset = .ok fresh) :
    fresh.Initial := by
  unfold Machine.reset at reset
  split at reset
  · cases reset
    exact ⟨rfl, rfl, rfl, rfl⟩
  · cases reset

theorem reset_reset {m fresh : Machine ρ ω} (reset : m.reset = .ok fresh) :
    fresh.reset = .ok fresh := by
  unfold Machine.reset at reset
  split at reset
  · rename_i capacity valid
    cases reset
    simp only [Machine.reset, rewind, valid]
  · cases reset

theorem Fresh.initial {m : Machine ρ ω} (fresh : m.Fresh) : m.Initial := initial_of_reset fresh.reset

theorem Initial.at {m : Machine ρ ω} (initial : m.Initial) : m.At 0 0 :=
  ⟨initial.counter, initial.pointer, by decide⟩

variable {program : Program} {reader : ρ} {writer : ω} {verbose : Bool} {history : Option Int}
  {m : Machine ρ ω}

theorem fresh_of_create (created : create program reader writer verbose {} history = .ok m) :
    m.Fresh := by
  refine ⟨reset_reset created, ?_⟩
  unfold create reset at created
  split at created
  · cases created
    rfl
  · cases created

theorem setup_of_create (created : create program reader writer verbose {} history = .ok m) :
    m.program = program ∧ m.reader = reader ∧ m.writer = writer := by
  unfold create reset at created
  split at created
  · cases created
    exact ⟨rfl, rfl, rfl⟩
  · cases created

theorem log_of_create (created : create program reader writer verbose {} history = .ok m) :
    ∃ capacity, StepLog.capacity history = .ok capacity ∧ m.log = StepLog.empty verbose capacity := by
  unfold create reset at created
  split at created
  · rename_i capacity valid
    cases created
    exact ⟨capacity, valid, rfl⟩
  · cases created

/-- What a run ends with that nothing is told of, if its loop was stopped by a fault. -/
def report (m : Machine ρ ω) : Fault → Fault
  | .run error => .run (error.attachStep m.log)
  | .failure failure =>
    match m.refuse (.internal failure) with
    | .run error => .run (error.attachStep m.log)
    | .failure failure => .failure failure

section
variable {failure : Failure} {pc : Int}

theorem report_of_message {message : String} (counter : m.pc = some pc)
    (worded : failure.message = .ok message) :
    m.report (.failure failure) = .run ((m.errorHere (.internal failure)).attachStep m.log) := by
  simp only [report, refuse_of_message counter (Reason.message_internal worded)]

theorem report_of_lost (lost : m.pc = none) :
    m.report (.failure .noCounter) = .failure .noCounter := by
  simp only [report, refuse, lost]
  rfl

end

def settle : Outcome Fault (Machine ρ ω) → Outcome Fault (Machine ρ ω)
  | .done m => .done m
  | .stopped fault m => .stopped (m.report fault) m
  | .exhausted => .exhausted

theorem settle_leaves {outcome : Outcome Fault (Machine ρ ω)} {P : Machine ρ ω → Prop}
    (leaves : outcome.Leaves P) : (settle outcome).Leaves P := by
  cases outcome <;> exact leaves

variable [Writer ω]

-- Without handlers there is nothing to call.
theorem emitEvent_of_hooks (none : m.hooks = {}) (fuel : Nat) (event : Event)
    (arguments : List Argument) : m.emitEvent (fuel + 1) event arguments = .done m := by
  have handlers : (HookHost.hooks m).handlers event = [] := by
    rw [show HookHost.hooks m = {} from none]
    cases event <;> rfl
  simp [emitEvent, HookHost.emit, HookHost.emitFrom, handlers]

theorem raise_of_hooks (none : m.hooks = {}) (fuel : Nat) (error : RunError) :
    m.raise (fuel + 1) error = .stopped (.run (error.attachStep m.log)) m := by
  simp only [raise, emitEvent_of_hooks none, Outcome.next_done]

theorem conclude_of_hooks {outcome : Outcome Fault (Machine ρ ω)}
    (none : outcome.Leaves fun m => m.hooks = {}) (fuel : Nat) :
    conclude (fuel + 1) outcome = settle outcome := by
  cases outcome with
  | done m => exact emitEvent_of_hooks none fuel .programEnd []
  | stopped fault m =>
    cases fault with
    | run error => exact raise_of_hooks none fuel error
    | failure failure =>
      simp only [conclude, settle, report]
      cases m.refuse (.internal failure) with
      | run error => exact raise_of_hooks none fuel error
      | failure failure => rfl
  | exhausted => rfl

variable [Reader ρ]

theorem execute_setup (fuel : Nat) (m : Machine ρ ω) :
    (execute .closed fuel m).Leaves m.SameSetup := by
  induction fuel generalizing m with
  | zero => trivial
  | succ fuel ih =>
    rw [execute_succ]
    cases turned : m.turn? with
    | none => exact SameSetup.refl m
    | some outcome =>
      exact (turn?_setup turned).next (fun _ same => same) fun next same =>
        (ih next).imp fun _ rest => same.trans rest

/-- A run that is to keep more steps than a log can does not start. -/
theorem run_of_history {failure : Failure} (invalid : StepLog.capacity m.history = .error failure)
    (fuel : Nat) : m.run fuel = .stopped (.failure failure) m.rewind := by
  simp only [run, reset, invalid]

-- A run starts by getting the machine ready for it.
theorem run_of_reset {fresh : Machine ρ ω} (reset : m.reset = .ok fresh) (fuel : Nat) :
    m.run fuel = fresh.run fuel := by
  simp only [run, reset, reset_reset reset]

/-- The run of a fresh machine is its loop. -/
theorem Fresh.run_eq (fresh : m.Fresh) (fuel : Nat) :
    m.run fuel = settle (execute .closed fuel m) := by
  simp only [run, fresh.reset]
  -- Even telling nobody takes a bound that is not zero.
  cases fuel with
  | zero => rfl
  | succ fuel =>
    have started : m.start (fuel + 1) = execute .closed (fuel + 1) m := by
      simp only [start, emitEvent_of_hooks fresh.hooks, Outcome.next_done, fresh.hooks]
      rfl
    rw [started]
    exact conclude_of_hooks
      ((execute_setup (fuel + 1) m).imp fun _ same => same.hooks.trans fresh.hooks) fuel

theorem Fresh.run_ends (fresh : m.Fresh) {fuel : Nat} :
    m.run fuel ≠ .exhausted ↔ execute .closed fuel m ≠ .exhausted := by
  rw [fresh.run_eq]
  cases execute .closed fuel m <;> simp [settle]

-- It does not matter how big the bound is, if it is big enough.
theorem Fresh.run_unique (fresh : m.Fresh) {fuel other : Nat} (ends : m.run fuel ≠ .exhausted)
    (enough : m.run other ≠ .exhausted) : m.run fuel = m.run other := by
  rw [fresh.run_ends] at ends enough
  rw [fresh.run_eq, fresh.run_eq, execute_unique ends enough]

theorem Fresh.run_done (fresh : m.Fresh) {fuel : Nat} {state : Machine ρ ω}
    (ends : m.run fuel = .done state) : ∃ k, m.Reaches k state ∧ state.turn? = none := by
  rw [fresh.run_eq] at ends
  cases ended : execute .closed fuel m <;> rw [ended] at ends <;> cases ends
  obtain ⟨k, _, reaches, finished⟩ := execute_eq_done ended
  exact ⟨k, reaches, finished⟩

theorem Fresh.run_stopped (fresh : m.Fresh) {fuel : Nat} {fault : Fault} {state : Machine ρ ω}
    (ends : m.run fuel = .stopped fault state) :
    ∃ k last cause, m.Reaches k last ∧ last.turn? = some (.stopped cause state) ∧
      fault = state.report cause := by
  rw [fresh.run_eq] at ends
  cases ended : execute .closed fuel m <;> rw [ended] at ends <;> cases ends
  obtain ⟨k, last, _, reaches, stops⟩ := execute_eq_stopped ended
  exact ⟨k, last, _, reaches, stops, rfl⟩

end Machine

end TapeLang
