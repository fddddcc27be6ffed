import TapeLang.Hook.Emit
import TapeLang.Proofs.Outcome

/-! Hosts that handlers cannot tell apart.

If each action commutes with a function on hosts, then so do the handlers of an event and the step
rules that are due. -/

set_option autoImplicit false

namespace TapeLang.HookHost

variable {σ τ : Type} [HookHost σ] [HookHost τ]

/-- A function on hosts that keeps their hooks and that every action commutes with. -/
structure Carries (f : σ → τ) : Prop where
  hooks : ∀ s, HookHost.hooks (f s) = HookHost.hooks s
  setHooks : ∀ s registry, HookHost.setHooks (f s) registry = f (HookHost.setHooks s registry)
  acts : ∀ s extension id arguments action,
    perform extension id arguments (f s) action = (perform extension id arguments s action).map f

variable {f : σ → τ} {event : Event} {arguments : List Argument} {context : StepContext}

theorem Carries.performAll (carries : Carries f) (extension id : String) (call : Nat) (s : σ)
    (tasks : List Task) :
    HookHost.performAll extension id arguments call (f s) tasks =
      (HookHost.performAll extension id arguments call s tasks).map f := by
  induction tasks generalizing s with
  | nil => rfl
  | cons task rest ih =>
    obtain ⟨atCall, action⟩ := task
    simp only [HookHost.performAll]
    split
    · rw [carries.acts]
      exact Outcome.next_map ih
    · exact ih s

theorem Carries.countHandler (carries : Carries f) (s : σ) (i : Nat) (registration : Registration) :
    HookHost.countHandler (f s) event i registration =
      f (HookHost.countHandler s event i registration) := by
  simp only [HookHost.countHandler, carries.hooks, carries.setHooks]

theorem Carries.countRule (carries : Carries f) (s : σ) (i : Nat) (rule : StepRule) :
    HookHost.countRule (f s) i rule = f (HookHost.countRule s i rule) := by
  simp only [HookHost.countRule, carries.hooks, carries.setHooks]

theorem Carries.emitFrom (carries : Carries f) (fuel i : Nat) (s : σ) :
    HookHost.emitFrom event arguments fuel i (f s) =
      (HookHost.emitFrom event arguments fuel i s).map f := by
  induction fuel generalizing i s with
  | zero => rfl
  | succ fuel ih =>
    simp only [HookHost.emitFrom, carries.hooks]
    cases ((HookHost.hooks s).handlers event)[i]? with
    | none => rfl
    | some registration =>
      simp only [call, carries.countHandler, carries.performAll]
      exact Outcome.next_map (ih (i + 1))

theorem Carries.emit (carries : Carries f) (fuel : Nat) (s : σ) :
    HookHost.emit fuel event arguments (f s) = (HookHost.emit fuel event arguments s).map f :=
  carries.emitFrom fuel 0 s

theorem Carries.afterStepFrom (carries : Carries f) (fuel i : Nat) (s : σ) :
    HookHost.afterStepFrom context fuel i (f s) =
      (HookHost.afterStepFrom context fuel i s).map f := by
  induction fuel generalizing i s with
  | zero => rfl
  | succ fuel ih =>
    simp only [HookHost.afterStepFrom, carries.hooks]
    cases (HookHost.hooks s).rules[i]? with
    | none => rfl
    | some rule =>
      dsimp only
      split
      · simp only [call, carries.countRule, carries.performAll]
        exact Outcome.next_map (ih (i + 1))
      · exact ih (i + 1) s

theorem Carries.afterStep (carries : Carries f) (fuel : Nat) (s : σ) :
    HookHost.afterStep fuel context (f s) = (HookHost.afterStep fuel context s).map f :=
  carries.afterStepFrom fuel 0 s

end TapeLang.HookHost
