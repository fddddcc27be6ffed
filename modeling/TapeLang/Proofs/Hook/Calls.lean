import TapeLang.Hook.Emit
import TapeLang.Proofs.Hook.Actions
import TapeLang.Proofs.Outcome

/-! What calls of handlers keep.

Handlers are called one after the other and take their actions one after the other. What each action
keeps of the host is therefore kept by the handlers of an event and by the step rules that are due,
as long as the registry declares no other actions. -/

set_option autoImplicit false

namespace TapeLang.HookHost

variable {σ : Type} [HookHost σ]

/-- An invariant of hosts that is kept by the actions `A`, which also bound what hooks declare. An
action that stops its handler does so by a fault of `Stops`. -/
structure Tame (A : Action → Prop) (Inv : σ → Prop) (Stops : Fault → σ → Prop) : Prop where
  declared : ∀ s, Inv s → ∀ action, (hooks s).Declares action → A action
  recounted : ∀ s registry, Inv s → (hooks s).Recounted registry → Inv (setHooks s registry)
  acts : ∀ s action, Inv s → A action → ∀ extension id arguments,
    (perform extension id arguments s action).Ends Inv Stops

variable {A : Action → Prop} {Inv : σ → Prop} {Stops : Fault → σ → Prop} {s : σ}
  {event : Event} {arguments : List Argument} {context : StepContext} {i fuel : Nat}

theorem Tame.handler (tame : Tame A Inv Stops) (inv : Inv s) {registration : Registration}
    (found : ((hooks s).handlers event)[i]? = some registration) :
    (∀ action, action.In registration.handler.tasks → A action) ∧
      Inv (countHandler s event i registration) := by
  constructor
  · intro action inside
    apply tame.declared s inv
    exact .inl ⟨event, registration, List.mem_of_getElem? found, inside⟩
  · exact tame.recounted s _ inv (HookRegistry.recounted_set_handlers found rfl)

theorem Tame.rule (tame : Tame A Inv Stops) (inv : Inv s) {rule : StepRule}
    (found : (hooks s).rules[i]? = some rule) :
    (∀ action, action.In rule.handler.tasks → A action) ∧ Inv (countRule s i rule) := by
  constructor
  · intro action inside
    apply tame.declared s inv
    exact .inr ⟨rule, List.mem_of_getElem? found, inside⟩
  · exact tame.recounted s _ inv (HookRegistry.recounted_set_rules found rfl)

theorem Tame.performAll (tame : Tame A Inv Stops) (extension id : String) (call : Nat)
    {tasks : List Task} (within : ∀ action, action.In tasks → A action) (inv : Inv s) :
    (HookHost.performAll extension id arguments call s tasks).Ends Inv Stops := by
  induction tasks generalizing s with
  | nil => exact inv
  | cons task rest ih =>
    obtain ⟨atCall, action⟩ := task
    have others (s : σ) (inv : Inv s) := ih (fun other inside => within other (.tail inside)) inv
    simp only [HookHost.performAll]
    split
    · exact (tame.acts s action inv (within action .head) _ _ _).next others
    · exact others s inv

theorem Tame.emitFrom (tame : Tame A Inv Stops) (inv : Inv s) :
    (HookHost.emitFrom event arguments fuel i s).Ends Inv Stops := by
  induction fuel generalizing i s with
  | zero => trivial
  | succ fuel ih =>
    simp only [HookHost.emitFrom]
    cases found : ((hooks s).handlers event)[i]? with
    | none => exact inv
    | some registration =>
      obtain ⟨within, counted⟩ := tame.handler inv found
      exact (tame.performAll _ _ _ within counted).next fun _ inv => ih inv

theorem Tame.emit (tame : Tame A Inv Stops) (inv : Inv s) :
    (HookHost.emit fuel event arguments s).Ends Inv Stops := tame.emitFrom inv

theorem Tame.afterStepFrom (tame : Tame A Inv Stops) (inv : Inv s) :
    (HookHost.afterStepFrom context fuel i s).Ends Inv Stops := by
  induction fuel generalizing i s with
  | zero => trivial
  | succ fuel ih =>
    simp only [HookHost.afterStepFrom]
    cases found : (hooks s).rules[i]? with
    | none => exact inv
    | some rule =>
      obtain ⟨within, counted⟩ := tame.rule inv found
      dsimp only
      split
      · exact (tame.performAll _ _ _ within counted).next fun _ inv => ih inv
      · exact ih inv

theorem Tame.afterStep (tame : Tame A Inv Stops) (inv : Inv s) :
    (HookHost.afterStep fuel context s).Ends Inv Stops := tame.afterStepFrom inv

/-! ## Ends

Handlers that register nothing come to an end: a walk takes one call for each of them. -/

section

variable (total : ∀ (s : σ) action extension id arguments,
  perform extension id arguments s action ≠ .exhausted)
include total

theorem performAll_ne_exhausted (extension id : String) (call : Nat) (tasks : List Task) :
    HookHost.performAll extension id arguments call s tasks ≠ .exhausted := by
  induction tasks generalizing s with
  | nil => exact nofun
  | cons task rest ih =>
    obtain ⟨atCall, action⟩ := task
    simp only [HookHost.performAll]
    split
    · have first := total s action extension id arguments
      cases performed : perform extension id arguments s action with
      | done next => exact ih
      | stopped fault next => exact nofun
      | exhausted => exact absurd performed first
    · exact ih

variable {size : Nat}

theorem Tame.emitFrom_ne_exhausted (tame : Tame A Inv Stops)
    (few : ∀ s, Inv s → ((hooks s).handlers event).length ≤ size) (inv : Inv s)
    (enough : size - i < fuel) : HookHost.emitFrom event arguments fuel i s ≠ .exhausted := by
  induction fuel generalizing i s with
  | zero => omega
  | succ fuel ih =>
    simp only [HookHost.emitFrom]
    cases found : ((hooks s).handlers event)[i]? with
    | none => exact nofun
    | some registration =>
      have listed := (List.getElem?_eq_some_iff.mp found).1
      have bound := few s inv
      obtain ⟨within, counted⟩ := tame.handler inv found
      refine (tame.performAll _ _ _ within counted).next_ne_exhausted
        (performAll_ne_exhausted total _ _ _ _) fun s inv => ih inv ?_
      omega

theorem Tame.afterStepFrom_ne_exhausted (tame : Tame A Inv Stops)
    (few : ∀ s, Inv s → (hooks s).rules.length ≤ size) (inv : Inv s)
    (enough : size - i < fuel) : HookHost.afterStepFrom context fuel i s ≠ .exhausted := by
  induction fuel generalizing i s with
  | zero => omega
  | succ fuel ih =>
    simp only [HookHost.afterStepFrom]
    cases found : (hooks s).rules[i]? with
    | none => exact nofun
    | some rule =>
      have listed := (List.getElem?_eq_some_iff.mp found).1
      have bound := few s inv
      obtain ⟨within, counted⟩ := tame.rule inv found
      dsimp only
      split
      · refine (tame.performAll _ _ _ within counted).next_ne_exhausted
          (performAll_ne_exhausted total _ _ _ _) fun s inv => ih inv ?_
        omega
      · refine ih inv ?_
        omega

/-- Handlers that never stop are all called, if the bound lets them. -/
theorem Tame.emit_passes (tame : Tame A Inv fun _ _ => False)
    (few : ∀ s, Inv s → ((hooks s).handlers event).length ≤ size) (inv : Inv s) :
    (HookHost.emit fuel event arguments s).Passes (size < fuel) Inv where
  ends := tame.emit inv
  bounded enough :=
    tame.emitFrom_ne_exhausted total few inv (Nat.lt_of_le_of_lt (size.sub_le 0) enough)

theorem Tame.afterStep_passes (tame : Tame A Inv fun _ _ => False)
    (few : ∀ s, Inv s → (hooks s).rules.length ≤ size) (inv : Inv s) :
    (HookHost.afterStep fuel context s).Passes (size < fuel) Inv where
  ends := tame.afterStep inv
  bounded enough :=
    tame.afterStepFrom_ne_exhausted total few inv (Nat.lt_of_le_of_lt (size.sub_le 0) enough)

end

end TapeLang.HookHost
