import TapeLang.Proofs.Machine.Itinerary
import TapeLang.Proofs.Machine.Observers

/-! The errors that handlers are told of.

An error that stops a run on its way to the end is told once, with the index of the last logged step.
One that comes out of handlers of the end is not told. -/

set_option autoImplicit false

namespace TapeLang

def Observing (tasks : List Task) : Prop := ∀ action : Action, action.In tasks → action.Observes

/-- Whether handlers of errors only take notes, those that are registered on the way too. -/
structure HookRegistry.ObservesErrors (registry : HookRegistry) : Prop where
  registered : ∀ registration ∈ registry.onError, Observing registration.handler.tasks
  later : ∀ id name priority style tasks,
    registry.Declares (.register (.event id name priority style tasks)) →
    Event.ofName? name = some .onError → Observing tasks

theorem take_set_map_drop {α : Type} (f : α → α) {items : List α} {i : Nat} {item : α}
    (found : items[i]? = some item) :
    (items.set i (f item)).take (i + 1) ++ ((items.set i (f item)).drop (i + 1)).map f =
      items.take i ++ (items.drop i).map f := by
  obtain ⟨inside, rfl⟩ := List.getElem?_eq_some_iff.mp found
  have next : (items.drop i).map f = f items[i] :: (items.drop (i + 1)).map f := by
    rw [List.drop_eq_getElem_cons inside, List.map_cons]
  rw [next, List.drop_set_of_lt (Nat.lt_succ_self i), List.take_add_one,
    List.take_set_of_le (Nat.le_refl i), List.getElem?_set_self inside, List.append_assoc]
  rfl

namespace Machine

variable {ρ ω : Type} [Writer ω] {m : Machine ρ ω} {fuel : Nat}

/-! ## Telling of an error -/

section
variable (error : RunError)

theorem act_observing {action : Action} (observes : action.Observes) (m : Machine ρ ω)
    (extension id : String) :
    ∃ journal diagnostics, HookHost.perform extension id [.error error] m action =
      .done { m with journal, diagnostics } := by
  rcases observes with rfl | ⟨line, rfl⟩
  · exact ⟨_, _, rfl⟩
  · cases line <;> exact ⟨_, _, rfl⟩

theorem performAll_observing {tasks : List Task} (observing : Observing tasks) (m : Machine ρ ω)
    (extension id : String) (call : Nat) :
    ∃ journal diagnostics, HookHost.performAll extension id [.error error] call m tasks =
      .done { m with journal, diagnostics } := by
  induction tasks generalizing m with
  | nil => exact ⟨_, _, rfl⟩
  | cons task rest ih =>
    obtain ⟨atCall, action⟩ := task
    have others := ih fun other inside => observing other (.tail inside)
    simp only [HookHost.performAll]
    split
    · obtain ⟨journal, diagnostics, performed⟩ :=
        act_observing error (observing action .head) m extension id
      rw [performed, Outcome.next_done]
      exact others _
    · exact others m

/-- Handlers that only take notes are all called, from a position on. -/
theorem emitFrom_observing {i : Nat}
    (observed : ∀ registration ∈ m.hooks.onError, Observing registration.handler.tasks) :
    HookHost.emitFrom .onError [.error error] fuel i m = .exhausted ∨
      ∃ journal diagnostics, HookHost.emitFrom .onError [.error error] fuel i m = .done
        { m with
          hooks := { m.hooks with onError := m.hooks.onError.take i ++
            (m.hooks.onError.drop i).map HookHost.Registration.counted }
          journal, diagnostics } := by
  induction fuel generalizing i m with
  | zero => exact .inl rfl
  | succ fuel ih =>
    simp only [HookHost.emitFrom]
    cases found : ((HookHost.hooks m).handlers .onError)[i]? with
    | none =>
      have past : m.hooks.onError.length ≤ i := List.getElem?_eq_none_iff.mp found
      refine .inr ⟨m.journal, m.diagnostics, ?_⟩
      simp [List.take_of_length_le past, List.drop_of_length_le past]
    | some registration =>
      have listed : m.hooks.onError[i]? = some registration := found
      have member := List.mem_of_getElem? listed
      let counted := HookHost.countHandler m .onError i registration
      obtain ⟨journal, diagnostics, called⟩ : ∃ journal diagnostics,
          HookHost.call registration.extension (HookHost.Registration.counted registration).handler
            [.error error] counted = .done { counted with journal, diagnostics } :=
        performAll_observing error (observed registration member) counted _ _ _
      let next : Machine ρ ω := { counted with journal, diagnostics }
      have rest : next.hooks.onError =
          m.hooks.onError.set i (HookHost.Registration.counted registration) := rfl
      have still : ∀ other ∈ next.hooks.onError, Observing other.handler.tasks := by
        intro other within
        rw [rest] at within
        rcases List.mem_or_eq_of_mem_set within with before | rfl
        · exact observed other before
        · exact observed registration member
      have others := ih (i := i + 1) still
      rw [rest, take_set_map_drop HookHost.Registration.counted listed] at others
      dsimp only
      rw [called, Outcome.next_done]
      exact others

/-- Telling of an error counts one call of each handler and changes nothing but what they note. -/
theorem emitEvent_observing
    (observed : ∀ registration ∈ m.hooks.onError, Observing registration.handler.tasks) :
    m.emitEvent fuel .onError [.error error] = .exhausted ∨
      ∃ journal diagnostics, m.emitEvent fuel .onError [.error error] = .done
        { m with
          hooks := { m.hooks with
            onError := m.hooks.onError.map HookHost.Registration.counted }
          journal, diagnostics } := by
  unfold emitEvent HookHost.emit
  rcases emitFrom_observing error observed with short | ⟨journal, diagnostics, emitted⟩
  · rw [short]
    exact .inl rfl
  · rw [emitted]
    exact .inr ⟨journal, diagnostics, rfl⟩

end

/-! ## On the way -/

def Unindexed (fault : Fault) : Prop :=
  fault.Satisfies (fun error => error.stepIndex = none) fun _ => True

/-- A machine of which the hooks declare nothing but what a given registry declares, with handlers of
errors that only take notes, and with a log that has kept the last step. -/
structure Reporting (registry : HookRegistry) (capacity : Option Nat) (m : Machine ρ ω) : Prop where
  declared : ∀ action, m.hooks.Declares action → registry.Declares action
  observed : ∀ registration ∈ m.hooks.onError, Observing registration.handler.tasks
  numbered : m.log.Numbered capacity

def StopsReporting (registry : HookRegistry) (capacity : Option Nat) (fault : Fault)
    (m : Machine ρ ω) : Prop :=
  m.Reporting registry capacity ∧ Unindexed fault

variable {registry : HookRegistry} {capacity : Option Nat}

theorem unindexed_ofFailure (failure : Failure) : Unindexed (.ofFailure failure) := by
  unfold Fault.ofFailure
  split
  · exact rfl
  · trivial

omit [Writer ω] in
theorem unindexed_refuse (m : Machine ρ ω) (reason : Reason) : Unindexed (m.refuse reason) := by
  rcases m.refuse_cases reason with ⟨_, told⟩ | ⟨_, _, untold⟩ | ⟨_, lost⟩
  · exact told ▸ rfl
  · exact untold ▸ trivial
  · exact lost ▸ trivial

omit [Writer ω] in
theorem observed_of_register {other : HookRegistry} {extension : String} {hook : Hook}
    (observes : registry.ObservesErrors) (allowed : registry.Declares (.register hook))
    (entered : m.hooks.register extension hook = .ok other)
    (observed : ∀ registration ∈ m.hooks.onError, Observing registration.handler.tasks) :
    ∀ registration ∈ other.onError, Observing registration.handler.tasks := by
  cases hook with
  | event id name priority style tasks =>
    simp only [HookRegistry.register, HookRegistry.enterIn_eq, HookRegistry.onEvent] at entered
    split at entered
    · cases entered
    · rename_i event named
      cases entered
      intro registration member
      cases event with
      | onError =>
        rcases HookRegistry.mem_insert member with rfl | before
        · exact observes.later id name priority style tasks allowed named
        · exact observed registration before
      | programStart | beforeStep | programEnd => exact observed registration member
  | rule id name every style tasks =>
    simp only [HookRegistry.register, HookRegistry.enterIn_eq, HookRegistry.everySteps] at entered
    split at entered <;> cases entered
    exact observed

theorem Reporting.tame (observes : registry.ObservesErrors)
    (plain : ∀ error, registry.Declares (.raiseRun error) → error.stepIndex = none) :
    HookHost.Tame registry.Declares (Reporting registry capacity (ρ := ρ) (ω := ω))
      (StopsReporting registry capacity) where
  declared m reporting := reporting.declared
  recounted m other reporting same := by
    refine ⟨fun action declares => reporting.declared action (same.declares declares), ?_,
      reporting.numbered⟩
    intro registration member
    have listed : registration.handler.tasks ∈ other.onError.map (·.handler.tasks) :=
      List.mem_map_of_mem member
    rw [show other.onError.map (·.handler.tasks) = m.hooks.onError.map (·.handler.tasks) from
      same.handlers .onError] at listed
    obtain ⟨before, found, tasks⟩ := List.mem_map.mp listed
    rw [← tasks]
    exact reporting.observed before found
  acts m action reporting allowed extension id arguments := by
    have kept (next : Machine ρ ω) (acted : m.Acted extension action next) :
        next.Reporting registry capacity := by
      refine ⟨fun _ declares => acted.declared reporting.declared allowed declares, ?_,
        acted.spares.log ▸ reporting.numbered⟩
      rcases acted.hooks with same | ⟨hook, rfl, entered⟩
      · rw [same]
        exact reporting.observed
      · exact observed_of_register observes allowed entered reporting.observed
    refine (m.act_ends extension id arguments action).imp kept ?_
    rintro fault next ⟨acted, stops⟩
    refine ⟨kept next acted, ?_⟩
    cases stops with
    | raise => exact unindexed_ofFailure _
    | raiseRun => exact plain _ allowed
    | write _ => exact unindexed_ofFailure _
    | failure => trivial

section
variable (observes : registry.ObservesErrors)
  (plain : ∀ error, registry.Declares (.raiseRun error) → error.stepIndex = none)
include observes plain

theorem Reporting.emitEvent (reporting : m.Reporting registry capacity) (event : Event)
    (arguments : List Argument) :
    (m.emitEvent fuel event arguments).Ends (Reporting registry capacity)
      (StopsReporting registry capacity) :=
  emitEvent_ends (Reporting.tame observes plain) reporting (fun _ _ stops => stops)
    (fun _ _ stops _ => ⟨stops.1, rfl⟩) (fun _ _ _ stops _ => ⟨stops.1, trivial⟩)
    fun _ _ stops _ => ⟨stops.1, trivial⟩

theorem Reporting.emitStep (reporting : m.Reporting registry capacity) (entry : LogEntry) :
    (m.emitStep fuel entry).Ends (Reporting registry capacity)
      (StopsReporting registry capacity) :=
  emitStep_ends (Reporting.tame observes plain) reporting (fun _ _ stops => stops)
    (fun _ _ stops => ⟨stops.1, rfl⟩) fun _ _ _ stops _ => ⟨stops.1, trivial⟩

variable [Reader ρ] (gates : Gates)

omit observes plain in
theorem Reporting.perform (reporting : m.Reporting registry capacity) {inst : Instruction}
    {entry : LogEntry} (entered : m.entryFor inst = .ok entry) :
    ((m.recordStep entry).perform inst).Ends (Reporting registry capacity)
      (StopsReporting registry capacity) := by
  have numbered := reporting.numbered.record (entryFor_eq_ok entered).1
  refine (perform_effect inst (m.recordStep entry)).imp ?_ ?_
  · rintro next ⟨_, _, _, _, _, rfl, _⟩
    exact ⟨reporting.declared, reporting.observed, numbered⟩
  · rintro fault next ⟨_, _, rfl, ⟨rfl, _⟩ | ⟨reason, rfl, _⟩⟩
    · exact ⟨⟨reporting.declared, reporting.observed, numbered⟩, trivial⟩
    · exact ⟨⟨reporting.declared, reporting.observed, numbered⟩, unindexed_refuse _ reason⟩

theorem Reporting.step (reporting : m.Reporting registry capacity) (inst : Instruction) :
    (m.step fuel gates inst).Ends (Reporting registry capacity)
      (StopsReporting registry capacity) :=
  step_ends (fun _ _ _ reporting => ⟨reporting, trivial⟩)
    (fun _ reporting => reporting.emitEvent observes plain _ _)
    (fun _ _ reporting entered => reporting.perform entered)
    (fun _ entry reporting => reporting.emitStep observes plain entry)
    (fun _ _ reporting => ⟨reporting.declared, reporting.observed, reporting.numbered⟩) reporting

theorem Reporting.execute (reporting : m.Reporting registry capacity) :
    (execute gates fuel m).Ends (Reporting registry capacity)
      (StopsReporting registry capacity) :=
  execute_ends (fun _ _ _ reporting => ⟨reporting, trivial⟩)
    (fun _ _ _ inst reporting _ => reporting.step observes plain gates inst) reporting

theorem Reporting.start (reporting : m.Reporting registry capacity) :
    (m.start fuel).Ends (Reporting registry capacity) (StopsReporting registry capacity) :=
  (reporting.emitEvent observes plain _ _).next fun m reporting =>
    reporting.execute observes plain m.hooks.gates

end

/-! ## Whole runs -/

section
omit [Writer ω]

theorem log_of_reset {m fresh : Machine ρ ω} (ready : m.reset = .ok fresh) :
    ∃ capacity, StepLog.capacity m.history = .ok capacity ∧
      fresh.log = StepLog.empty m.verbose capacity := by
  unfold reset at ready
  split at ready
  · rename_i capacity valid
    cases ready
    exact ⟨capacity, valid, rfl⟩
  · cases ready

-- An error without an index gets that of the last step that the log has kept.
theorem stepIndex_of_report {fault : Fault} {error : RunError} (unindexed : Unindexed fault)
    (reported : m.report fault = .run error) :
    error.stepIndex = m.log.last?.map fun entry => (entry.stepIndex : Int) := by
  have attached (given : RunError) (missing : given.stepIndex = none) :
      (given.attachStep m.log).stepIndex =
        m.log.last?.map fun entry => (entry.stepIndex : Int) := by
    simp [RunError.attachStep, missing]
  cases fault with
  | run given =>
    cases reported
    exact attached given unindexed
  | failure failure =>
    have missing := unindexed_refuse m (.internal failure)
    simp only [report] at reported
    cases refused : m.refuse (.internal failure) with
    | run given =>
      rw [refused] at reported missing
      cases reported
      exact attached given missing
    | failure other =>
      rw [refused] at reported
      cases reported

end

variable [Reader ρ]

/-- An error that stops a run and has been told of: handlers of errors are called with it, each of them
once, and nothing final is told before; and the error has the index of the last step, if there was
one. -/
structure Reported (m fresh : Machine ρ ω) (fuel : Nat) (error : RunError) (state : Machine ρ ω) :
    Prop where
  told : ∃ earlier, m.tour fuel =
      .stopped (.run error) ⟨state, earlier ++ [.event .onError [.error error]]⟩ ∧
    ∀ waypoint ∈ earlier, waypoint.isFinal = false
  called : ∃ fault before, fresh.start fuel = .stopped fault before ∧
    state.hooks.onError = before.hooks.onError.map HookHost.Registration.counted
  stepIndex : state.log.stepCount ≠ 0 → ∃ entry, state.log.last? = some entry ∧
    entry.stepIndex + 1 = state.log.stepCount ∧ error.stepIndex = some ↑entry.stepIndex

/-- An error that comes out of handlers of the end, of which no handler of errors is told. -/
structure Unreported (m : Machine ρ ω) (fuel : Nat) (error : RunError) (state : Machine ρ ω) :
    Prop where
  told : ∃ earlier, m.tour fuel = .stopped (.run error) ⟨state, earlier ++ [.event .programEnd []]⟩ ∧
    ∀ waypoint ∈ earlier, waypoint.isFinal = false
  stepIndex : error.stepIndex = none

theorem Unreported.not_reported {fresh state : Machine ρ ω} {error : RunError}
    (unreported : m.Unreported fuel error state) : ¬ Reported m fresh fuel error state := by
  intro reported
  obtain ⟨earlier, toured, _⟩ := unreported.told
  obtain ⟨other, same, _⟩ := reported.told
  simp only [toured, Outcome.stopped.injEq, Tour.mk.injEq, true_and] at same
  have last := congrArg List.getLast? same
  simp at last

variable {m fresh : Machine ρ ω} {error : RunError} {state : Machine ρ ω}

-- What follows the loop of a tour, if the run ends by an error.
theorem reporting_start (ready : m.reset = .ok fresh) {capacity : Option Nat}
    (valid : StepLog.capacity m.history = .ok capacity) (observes : m.hooks.ObservesErrors)
    (plain : ∀ error, m.hooks.Declares (.raiseRun error) → error.stepIndex = none) :
    (Tour.start fuel ⟨fresh, []⟩).Ends
      (fun tour => tour.Underway ∧ tour.machine.Reporting m.hooks capacity)
      fun fault tour => tour.Underway ∧ StopsReporting m.hooks capacity fault tour.machine := by
  have start : fresh.Reporting m.hooks capacity := by
    obtain ⟨same, again, log⟩ := log_of_reset ready
    cases again.symm.trans valid
    have hooks := hooks_of_reset ready
    exact ⟨fun _ declares => hooks ▸ declares, hooks ▸ observes.registered,
      log ▸ StepLog.numbered_empty _ _⟩
  have reporting : (fresh.start fuel).Ends _ _ := start.start observes plain
  rw [← Tour.map_start fuel ⟨fresh, []⟩, Outcome.ends_map] at reporting
  exact (Tour.Underway.start fuel (by simp [Tour.Underway])).and reporting

theorem reported_of_stopped (ready : m.reset = .ok fresh) (room : m.history ≠ some 0)
    (observes : m.hooks.ObservesErrors)
    (plain : ∀ error, m.hooks.Declares (.raiseRun error) → error.stepIndex = none)
    (ended : m.run fuel = .stopped (.run error) state) {fault : Fault} {before : Machine ρ ω}
    (stopped : fresh.start fuel = .stopped fault before) :
    Reported m fresh fuel error state := by
  obtain ⟨capacity, valid, _⟩ := log_of_reset ready
  obtain ⟨tour, started, rfl⟩ :=
    Outcome.map_eq_stopped.mp ((Tour.map_start fuel ⟨fresh, []⟩).trans stopped)
  have passes : (Tour.start fuel ⟨fresh, []⟩).Ends _ _ := reporting_start ready valid observes plain
  rw [started] at passes
  obtain ⟨underway, reporting, unindexed⟩ := passes
  have toured : m.tour fuel = Tour.conclude fuel (.stopped fault tour) := by
    simp only [Machine.tour, ready, started]
  have bare := map_tour fuel m
  rw [ended] at bare
  cases reported : tour.machine.report fault with
  | failure failure =>
    rw [toured, Tour.conclude_failure fuel reported] at bare
    cases bare
  | run given =>
    rw [Tour.conclude_stopped fuel reported, Tour.emitEvent_eq] at toured
    rcases emitEvent_observing given reporting.observed with short | ⟨journal, diagnostics, told⟩
    · rw [toured, short] at bare
      cases bare
    · rw [told] at toured
      rw [toured] at bare
      cases bare
      refine ⟨⟨tour.waypoints, toured, underway⟩, ⟨fault, tour.machine, stopped, rfl⟩, ?_⟩
      intro stepped
      have nonzero : capacity ≠ some 0 := fun none => room ((StepLog.kept_eq_zero valid).mp none)
      obtain ⟨entry, last, index⟩ := reporting.numbered.last? nonzero stepped
      refine ⟨entry, last, index, ?_⟩
      rw [stepIndex_of_report unindexed reported, last]
      rfl

theorem unreported_of_done (ready : m.reset = .ok fresh) (observes : m.hooks.ObservesErrors)
    (plain : ∀ error, m.hooks.Declares (.raiseRun error) → error.stepIndex = none)
    (ended : m.run fuel = .stopped (.run error) state) {final : Machine ρ ω}
    (finished : fresh.start fuel = .done final) : m.Unreported fuel error state := by
  obtain ⟨capacity, valid, _⟩ := log_of_reset ready
  obtain ⟨tour, started, rfl⟩ :=
    Outcome.map_eq_done.mp ((Tour.map_start fuel ⟨fresh, []⟩).trans finished)
  have passes : (Tour.start fuel ⟨fresh, []⟩).Ends _ _ := reporting_start ready valid observes plain
  rw [started] at passes
  obtain ⟨underway, reporting⟩ := passes
  have told : (tour.machine.emitEvent fuel .programEnd []).Ends _ _ :=
    reporting.emitEvent observes plain _ _
  have toured : m.tour fuel = (tour.machine.emitEvent fuel .programEnd []).map
      (⟨·, tour.waypoints ++ [.event .programEnd []]⟩) := by
    simp only [Machine.tour, ready, started]
    exact tour.emitEvent_eq fuel .programEnd []
  have bare := map_tour fuel m
  rw [ended] at bare
  cases emitted : tour.machine.emitEvent fuel .programEnd [] <;> rw [emitted] at toured told <;>
    rw [toured] at bare <;> cases bare
  exact ⟨⟨tour.waypoints, toured, underway⟩, told.2⟩

/-- Every error that stops a run is told once, except for one that comes out of handlers of the end. -/
theorem run_reported (ready : m.reset = .ok fresh) (room : m.history ≠ some 0)
    (observes : m.hooks.ObservesErrors)
    (plain : ∀ error, m.hooks.Declares (.raiseRun error) → error.stepIndex = none)
    (ended : m.run fuel = .stopped (.run error) state) :
    (Reported m fresh fuel error state ↔ ∀ final, fresh.start fuel ≠ .done final) ∧
      ∀ final, fresh.start fuel = .done final → m.Unreported fuel error state := by
  have unreported (final : Machine ρ ω) (finished : fresh.start fuel = .done final) :
      m.Unreported fuel error state := unreported_of_done ready observes plain ended finished
  refine ⟨⟨fun reported final finished => ?_, fun unfinished => ?_⟩, unreported⟩
  · exact (unreported final finished).not_reported reported
  · cases started : fresh.start fuel with
    | done final => exact absurd started (unfinished final)
    | stopped fault before => exact reported_of_stopped ready room observes plain ended started
    | exhausted =>
      simp only [run, ready, started, conclude] at ended
      cases ended

def alarmed : Machine ScriptReader BufferWriter where
  program := { code := #[⟨.moveLeft, none⟩] }
  reader := {}
  writer := {}
  hooks := { onError := [⟨0, "t", { id := "error", tasks := [.mk none .log] }⟩] }
  log := .empty false (some 16)

theorem alarmed_reported :
    alarmed.reset = .ok alarmed ∧ alarmed.history ≠ some 0 ∧ alarmed.hooks.ObservesErrors ∧
      (∀ error, alarmed.hooks.Declares (.raiseRun error) → error.stepIndex = none) ∧
      ∃ error state, alarmed.run 2 = .stopped (.run error) state ∧
        Reported alarmed alarmed 2 error state := by
  have ready : alarmed.reset = .ok alarmed := rfl
  have room : alarmed.history ≠ some 0 := by decide
  have observes : alarmed.hooks.ObservesErrors := by
    constructor
    · simp [alarmed, Observing, Action.Observes]
    · simp [alarmed, HookRegistry.declares_iff]
  have plain (error : RunError) (declares : alarmed.hooks.Declares (.raiseRun error)) :
      error.stepIndex = none := by
    simp [alarmed, HookRegistry.declares_iff] at declares
  obtain ⟨error, state, ended⟩ : ∃ error state, alarmed.run 2 = .stopped (.run error) state :=
    ⟨_, _, rfl⟩
  obtain ⟨fault, before, stopped⟩ : ∃ fault before, alarmed.start 2 = .stopped fault before :=
    ⟨_, _, rfl⟩
  refine ⟨ready, room, observes, plain, error, state, ended, ?_⟩
  exact (run_reported ready room observes plain ended).1.mpr (by simp [stopped])

/-- Comes to its end, where a handler fails; the handler of errors is not called. -/
def belated : Machine ScriptReader BufferWriter where
  program := { code := #[⟨.increment, none⟩], locations := #[⟨"<string>", 1, 1, "+"⟩] }
  reader := {}
  writer := {}
  hooks :=
    { programEnd := [⟨0, "t", { id := "boom", tasks := [.mk none (.raise (.raised .value "bad hook"))] }⟩]
      onError := [⟨0, "t", { id := "error", tasks := [.mk none .log] }⟩] }
  log := .empty false (some 16)

theorem belated_not_reported :
    load "+" "<string>" = .ok belated.program ∧ belated.reset = .ok belated ∧
      belated.history ≠ some 0 ∧ belated.hooks.ObservesErrors ∧
      (∀ error, belated.hooks.Declares (.raiseRun error) → error.stepIndex = none) ∧
      ∃ error state, belated.run 2 = .stopped (.run error) state ∧
        ¬ Reported belated belated 2 error state := by
  have ready : belated.reset = .ok belated := rfl
  have observes : belated.hooks.ObservesErrors := by
    constructor
    · simp [belated, Observing, Action.Observes]
    · simp [belated, HookRegistry.declares_iff]
  have plain (error : RunError) (declares : belated.hooks.Declares (.raiseRun error)) :
      error.stepIndex = none := by
    simp [belated, HookRegistry.declares_iff] at declares
  obtain ⟨error, state, ended⟩ : ∃ error state, belated.run 2 = .stopped (.run error) state :=
    ⟨_, _, rfl⟩
  obtain ⟨final, finished⟩ : ∃ final, belated.start 2 = .done final := ⟨_, rfl⟩
  refine ⟨rfl, ready, by decide, observes, plain, error, state, ended, ?_⟩
  exact (unreported_of_done ready observes plain ended finished).not_reported

end Machine

end TapeLang
