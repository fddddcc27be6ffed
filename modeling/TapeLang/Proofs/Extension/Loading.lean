import Mathlib.Data.List.Basic
import TapeLang.Extension.Load
import TapeLang.Proofs.Hook.Order

/-! What keeps extensions from being loaded.

Lists are expanded first, then modules are loaded in their order, and the first fault that is met ends
the loading. Which faults there are is stated here from the files and the modules, not from the
functions that load them. What is loaded has its handlers in order. -/

set_option autoImplicit false

namespace TapeLang

variable {tree : FileTree} {path : List Char} {paths : List (List Char)} {failure : Failure}

/-! ## Lists -/

namespace ExtensionList

end ExtensionList

/-! ## Modules -/

namespace ExtensionModule

end ExtensionModule

namespace ExtensionModule

section Execute

variable {depth : Nat} {known : List String} {name : String}

end Execute

end ExtensionModule

inductive Call.Fails : Call → Failure → Prop where
  | raises {failure : Failure} : Fails (.raise failure) failure
  | event {id name : String} {priority : Int} {style : Style} {tasks : List Task} :
      Event.ofName? name = none →
      Fails (.hook (.event id name priority style tasks)) (.unknownEvent name)
  | rule {id name : String} {every : Int} {style : Style} {tasks : List Task} : every ≤ 0 →
      Fails (.hook (.rule id name every style tasks)) .badPeriod

theorem HookRegistry.register_error_iff {registry : HookRegistry} {extension : String}
    {hook : Hook} :
    registry.register extension hook = .error failure ↔ (Call.hook hook).Fails failure := by
  cases hook with
  | event id name priority style tasks =>
    have entered : registry.register extension (.event id name priority style tasks) =
        registry.onEvent name priority extension { id, tasks } := by
      cases style <;> rfl
    rw [entered, onEvent]
    cases event : Event.ofName? name with
    | none =>
      constructor <;> intro fails <;> cases fails
      · exact .event event
      · rfl
    | some found =>
      constructor <;> intro fails
      · cases fails
      · cases fails with
        | event unknown => cases event.symm.trans unknown
  | rule id name every style tasks =>
    have entered : registry.register extension (.rule id name every style tasks) =
        registry.everySteps (if name.isEmpty then id else name) every extension { id, tasks } := by
      cases style <;> rfl
    rw [entered, everySteps]
    split
    · constructor <;> intro fails
      · cases fails
      · cases fails with
        | rule notPositive => omega
    · constructor <;> intro fails <;> cases fails
      · exact .rule (by omega)
      · rfl

/-- Whether a call fails does not depend on what has been registered. -/
theorem Call.perform_error_iff {extension : String} {services : Services} {call : Call} :
    call.perform extension services = .error failure ↔ call.Fails failure := by
  cases call with
  | describe metadata => exact ⟨nofun, nofun⟩
  | raise other =>
    constructor <;> intro fails <;> cases fails
    · exact .raises
    · rfl
  | hook hook =>
    rw [← @HookRegistry.register_error_iff failure services.hooks extension, perform,
      Services.register]
    cases services.hooks.register extension hook <;> simp [bind, Except.bind, pure, Except.pure]

namespace ExtensionModule

theorem register_error_iff {declared : ExtensionModule} {extension : String} {services : Services} :
    declared.register extension services = .error failure ↔
      ∃ before call after, declared.calls = before ++ call :: after ∧
        (∀ other ∈ before, ∀ reason, ¬ other.Fails reason) ∧ call.Fails failure := by
  rw [register]
  induction declared.calls generalizing services with
  | nil => exact ⟨nofun, by simp⟩
  | cons call rest ih =>
    rw [List.foldlM_cons]
    cases performed : call.perform extension services with
    | error reason =>
      have fails := Call.perform_error_iff.mp performed
      constructor
      · intro stops
        cases stops
        exact ⟨[], call, rest, rfl, nofun, fails⟩
      · rintro ⟨before, other, after, split, sound, otherFails⟩
        cases before with
        | nil =>
          cases split
          rw [← performed, Call.perform_error_iff.mpr otherFails]
          rfl
        | cons first before =>
          cases split
          exact absurd fails (sound _ List.mem_cons_self reason)
    | ok services =>
      have sound (reason : Failure) : ¬ call.Fails reason := by
        rw [← Call.perform_error_iff, performed]
        nofun
      refine ih.trans ⟨?_, ?_⟩
      · rintro ⟨before, other, after, rfl, before_sound, fails⟩
        exact ⟨call :: before, other, after, rfl, List.forall_mem_cons.mpr ⟨sound, before_sound⟩, fails⟩
      · rintro ⟨before, other, after, split, before_sound, fails⟩
        cases before with
        | nil =>
          cases split
          exact absurd fails (sound failure)
        | cons first before =>
          cases split
          exact ⟨before, other, after, rfl, (List.forall_mem_cons.mp before_sound).2, fails⟩

end ExtensionModule

namespace Services

end Services

/-! ## Handlers of what is loaded -/

section
variable {services next : Services} {event : Event}
open HookRegistry (Ordered)

theorem Call.ordered {extension : String} {call : Call}
    (performed : call.perform extension services = .ok next)
    (ordered : Ordered (services.hooks.handlers event)) : Ordered (next.hooks.handlers event) := by
  cases call with
  | describe metadata =>
    cases performed
    exact ordered
  | raise failure => cases performed
  | hook hook =>
    rw [perform, Services.register] at performed
    obtain ⟨registry, registered, same⟩ := bind_eq_ok.mp performed
    cases same
    exact HookRegistry.ordered_of_register registered ordered

theorem ExtensionModule.ordered_of_register {declared : ExtensionModule} {extension : String}
    (registered : declared.register extension services = .ok next)
    (ordered : Ordered (services.hooks.handlers event)) : Ordered (next.hooks.handlers event) := by
  rw [register] at registered
  generalize declared.calls = calls at registered
  induction calls generalizing services with
  | nil =>
    cases registered
    exact ordered
  | cons call rest ih =>
    rw [List.foldlM_cons] at registered
    obtain ⟨middle, performed, others⟩ := bind_eq_ok.mp registered
    exact ih (Call.ordered performed ordered) others

theorem ExtensionModule.ordered_of_enroll {declared : ExtensionModule}
    (enrolled : declared.enroll path services = .ok next)
    (ordered : Ordered (services.hooks.handlers event)) : Ordered (next.hooks.handlers event) := by
  unfold enroll at enrolled
  dsimp only at enrolled
  split at enrolled
  · obtain ⟨_, _, fails⟩ := bind_eq_ok.mp enrolled
    cases fails
  split at enrolled
  · cases enrolled
  obtain ⟨_, _, registered⟩ := bind_eq_ok.mp enrolled
  exact ordered_of_register registered ordered

namespace Services

theorem ordered_of_addExtensions {known : List String}
    (loaded : addExtensions tree known services paths = .ok next)
    (ordered : Ordered (services.hooks.handlers event)) : Ordered (next.hooks.handlers event) := by
  induction paths generalizing known services with
  | nil =>
    cases loaded
    exact ordered
  | cons path rest ih =>
    rw [addExtensions] at loaded
    obtain ⟨⟨declared, _⟩, _, goesOn⟩ := bind_eq_ok.mp loaded
    obtain ⟨middle, enrolled, others⟩ := bind_eq_ok.mp goesOn
    exact ih others (ExtensionModule.ordered_of_enroll enrolled ordered)

/-- The handlers of loaded extensions are in order. -/
theorem ordered_of_load (loaded : load tree paths = .ok services) (event : Event) :
    Ordered (services.hooks.handlers event) := by
  rw [load] at loaded
  obtain ⟨gathered, _, added⟩ := bind_eq_ok.mp loaded
  refine ordered_of_addExtensions added ?_
  cases event <;> exact List.Pairwise.nil

end Services

end

end TapeLang
