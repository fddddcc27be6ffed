import TapeLang.Proofs.Machine.Bounds
import TapeLang.Proofs.Machine.Turn

/-! The gates of the loop.

Which kinds of hook are heeded is settled before the first step. A kind that is not heeded could as
well be, at every step, as long as it has no handlers: to tell nobody changes nothing. So a loop with
gates is the loop without them, if no handlers of a kind that is not heeded come to be registered. -/

set_option autoImplicit false

namespace TapeLang

def Gates.opened : Gates := ⟨true, true⟩

inductive StepKind where
  | beforeStep
  | rules
  deriving DecidableEq, Repr

def StepKind.handlers (registry : HookRegistry) : StepKind → List Handler
  | beforeStep => registry.beforeStep.map (·.handler)
  | rules => registry.rules.map (·.handler)

def Gates.heeds (gates : Gates) : StepKind → Bool
  | .beforeStep => gates.beforeStep
  | .rules => gates.rules

theorem HookRegistry.heeds_gates {registry : HookRegistry} {kind : StepKind} :
    registry.gates.heeds kind = true ↔ kind.handlers registry ≠ [] := by
  cases kind <;>
    simp [gates, Gates.heeds, StepKind.handlers, hasHandlers, hasRules, HookRegistry.handlers]

namespace Machine

variable {ρ ω : Type} {m : Machine ρ ω} {gates : Gates} {fuel : Nat}

/-- Whether each kind of hook is heeded or has no handlers. -/
def Quiet (gates : Gates) (m : Machine ρ ω) : Prop :=
  ∀ kind : StepKind, gates.heeds kind = true ∨ kind.handlers m.hooks = []

theorem Quiet.beforeStep (quiet : m.Quiet gates) :
    gates.beforeStep = true ∨ m.hooks.handlers .beforeStep = [] :=
  (quiet .beforeStep).imp_right fun none => List.map_eq_nil_iff.mp none

-- The counter alone is changed between the rules of a step and its end.
theorem rules_of_advance (left : (advance m).Leaves (Quiet gates)) :
    gates.rules = true ∨ m.hooks.rules = [] := by
  have rules {next : Machine ρ ω} (same : next.hooks = m.hooks) (quiet : next.Quiet gates) :
      gates.rules = true ∨ m.hooks.rules = [] :=
    (quiet .rules).imp_right fun none => same ▸ List.map_eq_nil_iff.mp none
  unfold advance at left
  split at left
  · exact rules rfl left
  · exact rules rfl left

variable [Writer ω]

section
variable {arguments : List Argument} {entry : LogEntry}

theorem told_under (heeded : gates.beforeStep = true ∨ m.hooks.handlers .beforeStep = []) :
    (if gates.beforeStep then m.emitEvent fuel .beforeStep arguments else .done m).Under
      (m.emitEvent (fuel + 1) .beforeStep arguments) := by
  split
  · exact emitEvent_under fuel m
  · rw [emitEvent_of_nil (heeded.resolve_left ‹_›)]
    exact .refl _

theorem under_told (heeded : gates.beforeStep = true ∨ m.hooks.handlers .beforeStep = []) :
    (m.emitEvent fuel .beforeStep arguments).Under
      (if gates.beforeStep then m.emitEvent fuel .beforeStep arguments else .done m) := by
  split
  · exact .refl _
  · cases fuel with
    | zero => exact .inl rfl
    | succ fuel =>
      rw [emitEvent_of_nil (heeded.resolve_left ‹_›)]
      exact .refl _

theorem ruled_under (heeded : gates.rules = true ∨ m.hooks.rules = []) :
    (if gates.rules then m.emitStep fuel entry else .done m).Under
      (m.emitStep (fuel + 1) entry) := by
  split
  · exact emitStep_under fuel m
  · rw [emitStep_of_nil (heeded.resolve_left ‹_›)]
    exact .refl _

theorem under_ruled (heeded : gates.rules = true ∨ m.hooks.rules = []) :
    (m.emitStep fuel entry).Under
      (if gates.rules then m.emitStep fuel entry else .done m) := by
  split
  · exact .refl _
  · cases fuel with
    | zero => exact .inl rfl
    | succ fuel =>
      rw [emitStep_of_nil (heeded.resolve_left ‹_›)]
      exact .refl _

end

variable [Reader ρ] {inst : Instruction}

/-! ## Steps -/

-- Rules that a handler or the instruction itself had brought in would still be there after the step.
theorem rules_of_step {first second : Machine ρ ω} {entry : LogEntry}
    (left : (m.step fuel gates inst).Leaves (Quiet gates))
    (told : (if gates.beforeStep then m.emitEvent fuel .beforeStep [.instruction inst]
      else .done m) = .done first)
    (entered : first.entryFor inst = .ok entry)
    (performed : (first.recordStep entry).perform inst = .done second) :
    gates.rules = true ∨ second.hooks.rules = [] := by
  by_cases heeded : gates.rules = true
  · exact .inl heeded
  · rw [step, told] at left
    simp only [Outcome.next_done, entered, performed, heeded, if_false, Bool.false_eq_true] at left
    exact rules_of_advance left

theorem step_under_opened (quiet : m.Quiet gates)
    (left : (m.step fuel gates inst).Leaves (Quiet gates)) :
    (m.step fuel gates inst).Under (m.step (fuel + 1) .opened inst) := by
  rw [step, step]
  refine (told_under quiet.beforeStep).next fun first told => ?_
  cases entered : first.entryFor inst with
  | error failure => exact .refl _
  | ok entry =>
    refine (Outcome.Under.refl _).next fun second performed => ?_
    exact (ruled_under (rules_of_step left told entered performed)).next fun _ _ => .refl _

theorem opened_under_step (quiet : m.Quiet gates)
    (left : (m.step fuel gates inst).Leaves (Quiet gates)) :
    (m.step fuel .opened inst).Under (m.step fuel gates inst) := by
  have under : (m.emitEvent fuel .beforeStep [.instruction inst]).Under
      (if gates.beforeStep then m.emitEvent fuel .beforeStep [.instruction inst] else .done m) :=
    under_told quiet.beforeStep
  rw [step, step]
  refine under.next fun first told => ?_
  cases entered : first.entryFor inst with
  | error failure => exact .refl _
  | ok entry =>
    refine (Outcome.Under.refl _).next fun second performed => ?_
    have toldToo := under.eq_done told
    exact (under_ruled (rules_of_step left toldToo entered performed)).next fun _ _ => .refl _

/-! ## The loop -/

/-- The states that a loop gets to: those at its top, and the one that an error leaves behind. -/
inductive GetsTo (gates : Gates) : Machine ρ ω → Machine ρ ω → Prop where
  | here {m : Machine ρ ω} : GetsTo gates m m
  | stopped {m state : Machine ρ ω} {pc : Int} {inst : Instruction} {fuel : Nat} {fault : Fault} :
      m.pc = some pc → m.program.fetch pc = .instruction inst →
      m.step fuel gates inst = .stopped fault state → GetsTo gates m state
  | turn {m next state : Machine ρ ω} {pc : Int} {inst : Instruction} {fuel : Nat} :
      m.pc = some pc → m.program.fetch pc = .instruction inst →
      m.step fuel gates inst = .done next → GetsTo gates next state → GetsTo gates m state

variable {P : Machine ρ ω → Prop} {pc : Int}

theorem step_leaves_of_getsTo (always : ∀ state, m.GetsTo gates state → P state)
    (counter : m.pc = some pc) (fetched : m.program.fetch pc = .instruction inst) (fuel : Nat) :
    (m.step fuel gates inst).Leaves P := by
  cases taken : m.step fuel gates inst with
  | done next => exact always next (.turn counter fetched taken .here)
  | stopped fault state => exact always state (.stopped counter fetched taken)
  | exhausted => trivial

/-- What each step keeps holds wherever the loop gets to. -/
theorem GetsTo.keeps {state : Machine ρ ω} (gets : m.GetsTo gates state)
    (stepped : ∀ fuel m inst, P m → (m.step fuel gates inst).Leaves P) (holds : P m) : P state := by
  induction gets with
  | here => exact holds
  | @stopped m _ _ inst fuel _ _ _ taken =>
    have left := stepped fuel m inst holds
    rw [taken] at left
    exact left
  | @turn m _ _ _ inst fuel _ _ taken _ ih =>
    have left := stepped fuel m inst holds
    rw [taken] at left
    exact ih left

theorem turn_under_opened (quiet : ∀ state, m.GetsTo gates state → state.Quiet gates)
    (counter : m.pc = some pc) (fetched : m.program.fetch pc = .instruction inst) (fuel : Nat) :
    (m.step fuel gates inst).Under (m.step (fuel + 1) .opened inst) :=
  step_under_opened (quiet m .here) (step_leaves_of_getsTo quiet counter fetched fuel)

theorem opened_under_turn (quiet : ∀ state, m.GetsTo gates state → state.Quiet gates)
    (counter : m.pc = some pc) (fetched : m.program.fetch pc = .instruction inst) (fuel : Nat) :
    (m.step fuel .opened inst).Under (m.step fuel gates inst) :=
  opened_under_step (quiet m .here) (step_leaves_of_getsTo quiet counter fetched fuel)

/-- Where no handlers come up of a kind that is not heeded, the loop might heed every hook. -/
theorem execute_under_opened (quiet : ∀ state, m.GetsTo gates state → state.Quiet gates)
    (fuel : Nat) : (execute gates fuel m).Under (execute .opened (fuel + 1) m) := by
  induction fuel generalizing m with
  | zero => exact .inl rfl
  | succ fuel ih =>
    rw [execute_succ_next, execute_succ_next]
    cases counter : m.pc with
    | none => exact .refl _
    | some pc =>
      dsimp only
      cases fetched : m.program.fetch pc with
      | finished | outside => exact .refl _
      | instruction inst =>
        refine (turn_under_opened quiet counter fetched fuel).next fun next taken => ?_
        exact ih fun state gets => quiet state (.turn counter fetched taken gets)

theorem opened_under_execute (quiet : ∀ state, m.GetsTo gates state → state.Quiet gates)
    (fuel : Nat) : (execute .opened fuel m).Under (execute gates fuel m) := by
  induction fuel generalizing m with
  | zero => exact .inl rfl
  | succ fuel ih =>
    rw [execute_succ_next, execute_succ_next]
    cases counter : m.pc with
    | none => exact .refl _
    | some pc =>
      dsimp only
      cases fetched : m.program.fetch pc with
      | finished | outside => exact .refl _
      | instruction inst =>
        have under := opened_under_turn quiet counter fetched fuel
        refine under.next fun next taken => ?_
        have takenToo := under.eq_done taken
        exact ih fun state gets => quiet state (.turn counter fetched takenToo gets)

theorem getsTo_opened_iff (quiet : ∀ state, m.GetsTo gates state → state.Quiet gates)
    {state : Machine ρ ω} : m.GetsTo gates state ↔ m.GetsTo .opened state := by
  constructor
  · intro gets
    induction gets with
    | here => exact .here
    | @stopped m _ _ _ fuel _ counter fetched taken =>
      have under := turn_under_opened quiet counter fetched fuel
      exact .stopped counter fetched (under.eq_stopped taken)
    | @turn m _ _ _ _ fuel counter fetched taken _ ih =>
      have under := turn_under_opened quiet counter fetched fuel
      refine .turn counter fetched (under.eq_done taken) (ih ?_)
      exact fun state gets => quiet state (.turn counter fetched taken gets)
  · intro gets
    induction gets with
    | here => exact .here
    | @stopped m _ _ _ fuel _ counter fetched taken =>
      have under := opened_under_turn quiet counter fetched fuel
      exact .stopped counter fetched (under.eq_stopped taken)
    | @turn m _ _ _ _ fuel counter fetched taken _ ih =>
      have under := opened_under_turn quiet counter fetched fuel
      have takenToo := under.eq_done taken
      refine .turn counter fetched takenToo (ih ?_)
      exact fun state gets => quiet state (.turn counter fetched takenToo gets)

/-! ## Runs -/

/-- A run of which the loop heeds every hook at every step. -/
def runUngated (fuel : Nat) (m : Machine ρ ω) : Outcome Fault (Machine ρ ω) :=
  match m.reset with
  | .error failure => .stopped (.failure failure) m.rewind
  | .ok m => conclude fuel
      ((m.emitEvent fuel .programStart [.program m.program.size]).next (execute .opened fuel))

def Starts (m started : Machine ρ ω) : Prop :=
  ∃ fresh fuel, m.reset = .ok fresh ∧
    fresh.emitEvent fuel .programStart [.program fresh.program.size] = .done started

omit [Reader ρ] in
theorem Starts.unique {first second : Machine ρ ω} (starts : m.Starts first)
    (too : m.Starts second) : first = second := by
  obtain ⟨fresh, fuel, reset, told⟩ := starts
  obtain ⟨again, other, resetToo, toldToo⟩ := too
  cases reset.symm.trans resetToo
  have ends : fresh.emitEvent other .programStart [.program fresh.program.size] ≠ .exhausted := by
    rw [toldToo]
    exact nofun
  exact Outcome.done.inj ((emitEvent_unique told ends).symm.trans toldToo)

section
variable (quiet : ∀ started, m.Starts started → ∀ state,
  started.GetsTo started.hooks.gates state → state.Quiet started.hooks.gates)
include quiet

theorem run_under_ungated (fuel : Nat) : (m.run fuel).Under (m.runUngated (fuel + 1)) := by
  rw [run, runUngated]
  cases reset : m.reset with
  | error failure => exact .refl _
  | ok fresh =>
    refine conclude_under ((emitEvent_under fuel fresh).next fun started told => ?_) fuel
    exact execute_under_opened (quiet started ⟨fresh, fuel, reset, told⟩) fuel

theorem ungated_under_run (fuel : Nat) : (m.runUngated fuel).Under (m.run fuel) := by
  rw [run, runUngated]
  cases reset : m.reset with
  | error failure => exact .refl _
  | ok fresh =>
    have under : ((fresh.emitEvent fuel .programStart [.program fresh.program.size]).next
        (execute .opened fuel)).Under (fresh.start fuel) :=
      (Outcome.Under.refl _).next fun started told =>
        opened_under_execute (quiet started ⟨fresh, fuel, reset, told⟩) fuel
    dsimp only
    rcases under with short | same
    · exact .inl (by rw [short]; rfl)
    · rw [same]
      exact .refl _

/-- Both runs end in the same way, if one of them ends. -/
theorem run_iff_ungated {outcome : Outcome Fault (Machine ρ ω)} (ends : outcome ≠ .exhausted) :
    (∃ fuel, m.run fuel = outcome) ↔ ∃ fuel, m.runUngated fuel = outcome := by
  constructor
  · rintro ⟨fuel, rfl⟩
    exact ⟨fuel + 1, (run_under_ungated quiet fuel).eq ends⟩
  · rintro ⟨fuel, rfl⟩
    exact ⟨fuel, (ungated_under_run quiet fuel).eq ends⟩

end

end Machine

end TapeLang
