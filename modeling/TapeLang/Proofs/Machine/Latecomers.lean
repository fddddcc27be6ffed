import TapeLang.Proofs.Machine.Gating
import TapeLang.Proofs.Machine.Hooked

/-! Hooks that come too late.

If a kind of hook has no handlers when the loop starts, handlers of that kind which are registered
later are not called. Calls are counted, and nothing else changes a count: a new handler has none, and
those of other events are counted elsewhere. -/

set_option autoImplicit false

namespace TapeLang

theorem Outcome.Ends.leaves {ε σ : Type} {P : σ → Prop} {outcome : Outcome ε σ}
    (ends : outcome.Ends P fun _ => P) : outcome.Leaves P := by
  cases outcome <;> exact ends

namespace HookHost

variable {σ : Type} [HookHost σ] {P : σ → Prop} {event : Event} {arguments : List Argument}
  {context : StepContext} {s : σ}

section
variable (acts : ∀ s extension id arguments action, P s →
  (perform extension id arguments s action).Ends P fun _ => P)
include acts

theorem performAll_keeps (extension id : String) (call : Nat) (tasks : List Task) (holds : P s) :
    (performAll extension id arguments call s tasks).Ends P fun _ => P := by
  induction tasks generalizing s with
  | nil => exact holds
  | cons task rest ih =>
    obtain ⟨atCall, action⟩ := task
    simp only [performAll]
    split
    · exact (acts s _ _ _ action holds).next fun _ holds => ih holds
    · exact ih holds

/-- What actions keep, and to count a handler of the event, is kept by all of its handlers. -/
theorem emitFrom_keeps (counts : ∀ s i registration, P s → P (countHandler s event i registration))
    (fuel i : Nat) (holds : P s) : (emitFrom event arguments fuel i s).Ends P fun _ => P := by
  induction fuel generalizing i s with
  | zero => trivial
  | succ fuel ih =>
    simp only [emitFrom]
    cases ((hooks s).handlers event)[i]? with
    | none => exact holds
    | some registration =>
      exact (performAll_keeps acts _ _ _ _ (counts s i registration holds)).next
        fun _ holds => ih (i + 1) holds

theorem afterStepFrom_keeps (counts : ∀ s i rule, P s → P (countRule s i rule)) (fuel i : Nat)
    (holds : P s) : (afterStepFrom context fuel i s).Ends P fun _ => P := by
  induction fuel generalizing i s with
  | zero => trivial
  | succ fuel ih =>
    simp only [afterStepFrom]
    cases (hooks s).rules[i]? with
    | none => exact holds
    | some rule =>
      dsimp only
      split
      · exact (performAll_keeps acts _ _ _ _ (counts s i rule holds)).next
          fun _ holds => ih (i + 1) holds
      · exact ih (i + 1) holds

end

end HookHost

namespace StepKind

variable {kind : StepKind} {registry other : HookRegistry}

def event? : StepKind → Option Event
  | beforeStep => some .beforeStep
  | rules => none

def Uncalled (kind : StepKind) (registry : HookRegistry) : Prop :=
  ∀ handler ∈ kind.handlers registry, handler.calls = 0

theorem uncalled_of_nil (none : kind.handlers registry = []) : kind.Uncalled registry := by
  simp [Uncalled, none]

theorem calls_of_registration? {hook : Hook} {extension : String} {event : Event}
    {new : Registration} (found : hook.registration? extension event = some new) :
    new.handler.calls = 0 := by
  unfold Hook.registration? at found
  split at found
  · split at found
    · cases found
      rfl
    · cases found
  · cases found

theorem Uncalled.register {hook : Hook} {extension : String} (uncalled : kind.Uncalled registry)
    (registered : registry.register extension hook = .ok other) : kind.Uncalled other := by
  intro handler member
  cases kind with
  | beforeStep =>
    obtain ⟨registration, listed, rfl⟩ := List.mem_map.mp member
    have before := HookRegistry.handlers_of_register registered .beforeStep
    rw [show other.beforeStep = other.handlers .beforeStep from rfl, before] at listed
    split at listed
    · rcases HookRegistry.mem_insert listed with rfl | listed
      · exact calls_of_registration? ‹_›
      · exact uncalled _ (List.mem_map_of_mem listed)
    · exact uncalled _ (List.mem_map_of_mem listed)
  | rules =>
    obtain ⟨rule, listed, rfl⟩ := List.mem_map.mp member
    cases hook with
    | event id name priority style tasks =>
      simp only [HookRegistry.register, HookRegistry.enterIn_eq, HookRegistry.onEvent] at registered
      split at registered <;> cases registered
      rw [HookRegistry.rules_setHandlers] at listed
      exact uncalled _ (List.mem_map_of_mem listed)
    | rule id name every style tasks =>
      simp only [HookRegistry.register, HookRegistry.enterIn_eq,
        HookRegistry.everySteps] at registered
      split at registered <;> cases registered
      rcases List.mem_append.mp listed with listed | new
      · exact uncalled _ (List.mem_map_of_mem listed)
      · rw [List.mem_singleton.mp new]

-- Handlers of another event are of another kind.
theorem Uncalled.setHandlers {event : Event} {handlers : List Registration}
    (uncalled : kind.Uncalled registry) (apart : kind.event? ≠ some event) :
    kind.Uncalled (registry.setHandlers event handlers) := by
  have same : kind.handlers (registry.setHandlers event handlers) = kind.handlers registry := by
    cases kind with
    | beforeStep =>
      have distinct : Event.beforeStep ≠ event := fun same => apart (congrArg some same)
      exact congrArg (List.map (·.handler))
        (HookRegistry.handlers_setHandlers_of_ne distinct handlers)
    | rules => exact congrArg (List.map (·.handler)) (registry.rules_setHandlers event handlers)
  rw [Uncalled, same]
  exact uncalled

end StepKind

namespace Machine

variable {ρ ω : Type} [Writer ω] {m : Machine ρ ω} {kind : StepKind} {gates : Gates}

def Uncalled (kind : StepKind) (m : Machine ρ ω) : Prop := kind.Uncalled m.hooks

theorem act_uncalled (m : Machine ρ ω) (extension id : String) (arguments : List Argument)
    (action : Action) (uncalled : m.Uncalled kind) :
    (HookHost.perform extension id arguments m action).Ends (Uncalled kind)
      fun _ => Uncalled kind := by
  have kept (next : Machine ρ ω) (acted : m.Acted extension action next) : next.Uncalled kind := by
    rcases acted.hooks with same | ⟨hook, _, registered⟩
    · rw [Uncalled, same]
      exact uncalled
    · exact StepKind.Uncalled.register uncalled registered
  exact (m.act_ends extension id arguments action).imp kept fun _ next acted => kept next acted.1

theorem emitEvent_uncalled {event : Event} (apart : kind.event? ≠ some event) (fuel : Nat)
    (arguments : List Argument) (uncalled : m.Uncalled kind) :
    (m.emitEvent fuel event arguments).Ends (Uncalled kind) fun _ => Uncalled kind := by
  have counts (m : Machine ρ ω) (i : Nat) (registration : Registration)
      (uncalled : m.Uncalled kind) :
      Uncalled kind (HookHost.countHandler m event i registration) :=
    StepKind.Uncalled.setHandlers uncalled apart
  have called : (HookHost.emit fuel event arguments m).Ends (Uncalled kind) fun _ => Uncalled kind :=
    HookHost.emitFrom_keeps act_uncalled counts fuel 0 uncalled
  unfold emitEvent
  split
  · rename_i failure next emitted
    rw [emitted] at called
    exact called
  · exact called

theorem emitStep_uncalled (fuel : Nat) (entry : LogEntry) (uncalled : m.Uncalled .beforeStep) :
    (m.emitStep fuel entry).Ends (Uncalled .beforeStep) fun _ => Uncalled .beforeStep := by
  have counts (m : Machine ρ ω) (i : Nat) (rule : StepRule) (uncalled : m.Uncalled .beforeStep) :
      Uncalled .beforeStep (HookHost.countRule m i rule) := uncalled
  unfold emitStep
  generalize StepContext.mk entry.stepIndex entry.pc entry.op m.pointer entry.location = context
  have called : (HookHost.afterStep fuel context m).Ends (Uncalled .beforeStep)
      fun _ => Uncalled .beforeStep :=
    HookHost.afterStepFrom_keeps act_uncalled counts fuel 0 uncalled
  split
  · rename_i failure next emitted
    rw [emitted] at called
    exact called
  · exact called

variable [Reader ρ] {inst : Instruction} {fuel : Nat}

/-- A step keeps it that a kind is uncalled which is not heeded. -/
theorem step_uncalled (unheeded : gates.heeds kind = false) (uncalled : m.Uncalled kind) :
    (m.step fuel gates inst).Ends (Uncalled kind) fun _ => Uncalled kind := by
  have told : (if gates.beforeStep then m.emitEvent fuel .beforeStep [.instruction inst]
      else .done m).Ends (Uncalled kind) fun _ => Uncalled kind := by
    split
    · rename_i heeded
      have apart : kind.event? ≠ some .beforeStep := by
        rintro same
        cases kind with
        | beforeStep => exact absurd heeded (Bool.eq_false_iff.mp unheeded)
        | rules => cases same
      exact emitEvent_uncalled apart fuel _ uncalled
    · exact uncalled
  refine told.next fun m uncalled => ?_
  cases m.entryFor inst with
  | error failure => exact uncalled
  | ok entry =>
    have performed : ((m.recordStep entry).perform inst).Ends (Uncalled kind)
        fun _ => Uncalled kind := by
      refine (perform_frames inst (m.recordStep entry)).imp ?_ ?_
      · rintro next ⟨_, _, _, _, _, rfl, _⟩
        exact uncalled
      · rintro fault next ⟨_, _, _, _, _, rfl, _⟩
        exact uncalled
    refine performed.next fun m uncalled => ?_
    have ruled : (if gates.rules then m.emitStep fuel entry else .done m).Ends (Uncalled kind)
        fun _ => Uncalled kind := by
      split
      · rename_i heeded
        cases kind with
        | beforeStep => exact emitStep_uncalled fuel entry uncalled
        | rules => exact absurd heeded (Bool.eq_false_iff.mp unheeded)
      · exact uncalled
    refine ruled.next fun m uncalled => ?_
    unfold advance
    split <;> exact uncalled

theorem execute_uncalled (unheeded : gates.heeds kind = false) (uncalled : m.Uncalled kind) :
    (execute gates fuel m).Ends (Uncalled kind) fun _ => Uncalled kind :=
  execute_ends (fun _ _ _ uncalled => uncalled)
    (fun _ _ _ _ uncalled _ => step_uncalled unheeded uncalled) uncalled

omit [Reader ρ] in
theorem conclude_uncalled {outcome : Outcome Fault (Machine ρ ω)}
    (ended : outcome.Ends (Uncalled kind) fun _ => Uncalled kind) :
    (conclude fuel outcome).Ends (Uncalled kind) fun _ => Uncalled kind := by
  have apart {event : Event} (other : event ≠ .beforeStep) : kind.event? ≠ some event := by
    cases kind with
    | beforeStep => exact fun same => other (Option.some.inj same).symm
    | rules => exact nofun
  have raised (error : RunError) {m : Machine ρ ω} (uncalled : m.Uncalled kind) :
      (m.raise fuel error).Ends (Uncalled kind) fun _ => Uncalled kind :=
    (emitEvent_uncalled (apart (by decide)) fuel _ uncalled).next
      fun _ (uncalled : Uncalled kind _) => uncalled
  cases outcome with
  | done m => exact emitEvent_uncalled (apart (by decide)) fuel _ ended
  | stopped fault m =>
    cases fault with
    | run error => exact raised error ended
    | failure failure =>
      simp only [conclude]
      split
      · exact raised _ ended
      · exact ended
  | exhausted => trivial

theorem heeds_of_nil {registry : HookRegistry} (none : kind.handlers registry = []) :
    registry.gates.heeds kind = false := by
  rw [← Bool.not_eq_true, HookRegistry.heeds_gates]
  exact not_not_intro none

theorem Starts.run_uncalled {started : Machine ρ ω} (starts : m.Starts started)
    (none : kind.handlers started.hooks = []) (fuel : Nat) :
    (m.run fuel).Ends (Uncalled kind) fun _ => Uncalled kind := by
  obtain ⟨fresh, enough, reset, told⟩ := starts
  rw [run, reset]
  refine conclude_uncalled ?_
  rw [start]
  by_cases ends : fresh.emitEvent fuel .programStart [.program fresh.program.size] = .exhausted
  · rw [ends]
    trivial
  · rw [emitEvent_unique told ends]
    exact execute_uncalled (heeds_of_nil none) (StepKind.uncalled_of_nil none)

/-- The gates of the loop do not show in a run, unless handlers of a kind are registered that had none
when the loop started: the loop could heed every hook at every step. Handlers of such a kind are never
called. -/
theorem run_gated (m : Machine ρ ω) :
    ((∀ started, m.Starts started → ∀ kind : StepKind, kind.handlers started.hooks ≠ [] ∨
        ∀ state, started.GetsTo started.hooks.gates state → kind.handlers state.hooks = []) →
      (∀ outcome, outcome ≠ .exhausted →
        ((∃ fuel, m.run fuel = outcome) ↔ ∃ fuel, m.runUngated fuel = outcome)) ∧
      ∀ started, m.Starts started → ∀ state,
        started.GetsTo started.hooks.gates state ↔ started.GetsTo .opened state) ∧
    ∀ started, m.Starts started → ∀ kind : StepKind, kind.handlers started.hooks = [] →
      (∀ state, started.GetsTo started.hooks.gates state → kind.Uncalled state.hooks) ∧
      ∀ fuel, (m.run fuel).Leaves fun state => kind.Uncalled state.hooks := by
  constructor
  · intro timely
    have quiet (started : Machine ρ ω) (starts : m.Starts started) (state : Machine ρ ω)
        (gets : started.GetsTo started.hooks.gates state) : state.Quiet started.hooks.gates :=
      fun kind => (timely started starts kind).imp HookRegistry.heeds_gates.mpr
        fun never => never state gets
    exact ⟨fun outcome ends => run_iff_ungated quiet ends,
      fun started starts state => getsTo_opened_iff (quiet started starts)⟩
  · intro started starts kind none
    refine ⟨fun state gets => ?_, fun fuel => (starts.run_uncalled none fuel).leaves⟩
    have stepped (fuel : Nat) (m : Machine ρ ω) (inst : Instruction) (uncalled : m.Uncalled kind) :
        (m.step fuel started.hooks.gates inst).Leaves (Uncalled kind) :=
      (step_uncalled (heeds_of_nil none) uncalled).leaves
    exact gets.keeps stepped (StepKind.uncalled_of_nil none)

/-- A machine with one instruction, some step rules, and a handler that brings in another one at its
first call. -/
def ushered (rules : List StepRule) : Machine ScriptReader BufferWriter where
  program := { code := #[⟨.increment, none⟩] }
  reader := {}
  writer := {}
  hooks :=
    { beforeStep := [⟨0, "hall", { id := "usher", tasks := [.mk (some 1)
        (.register (.rule "guest" "" 1 .direct []))] }⟩]
      rules }
  log := StepLog.empty false (some 16)

-- Beside another step rule the new one is called at every step; alone it is too late.
theorem ushered_gated :
    (∀ outcome, outcome ≠ .exhausted →
      ((∃ fuel, (ushered [⟨2, by decide, "", "hall", ⟨"host", [], 0⟩⟩]).run fuel = outcome) ↔
        ∃ fuel, (ushered [⟨2, by decide, "", "hall", ⟨"host", [], 0⟩⟩]).runUngated fuel = outcome)) ∧
    ((ushered []).run 3).Leaves (fun state => state.hooks.rules ≠ []) ∧
    ((ushered []).run 3).Leaves fun state => StepKind.rules.Uncalled state.hooks := by
  refine ⟨((run_gated _).1 fun started starts kind => ?_).1, nofun, ?_⟩
  · cases starts.unique ⟨_, 1, rfl, rfl⟩
    cases kind <;> exact .inl nofun
  · exact ((run_gated (ushered [])).2 (ushered []) ⟨_, 1, rfl, rfl⟩ .rules rfl).2 3

end Machine

end TapeLang
