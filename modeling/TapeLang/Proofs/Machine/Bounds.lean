import TapeLang.Proofs.Machine.Effect

/-! Larger bounds.

A bound that is too small exhausts a computation. If it does not, a larger one changes nothing: the
same handlers are called, and a run is concluded in the same way. -/

set_option autoImplicit false

namespace TapeLang

namespace Outcome

variable {ε σ : Type} {short long : Outcome ε σ}

/-- One outcome is the other, unless its bound was too small. -/
def Under (short long : Outcome ε σ) : Prop := short = exhausted ∨ short = long

theorem Under.refl (outcome : Outcome ε σ) : outcome.Under outcome := .inr rfl

theorem Under.eq (under : short.Under long) (ends : short ≠ exhausted) : long = short :=
  (under.resolve_left ends).symm

theorem Under.eq_done {s : σ} (under : short.Under long) (ended : short = done s) : long = done s := by
  rcases under with rfl | rfl
  · cases ended
  · exact ended

theorem Under.eq_stopped {fault : ε} {s : σ} (under : short.Under long)
    (ended : short = stopped fault s) : long = stopped fault s := by
  rcases under with rfl | rfl
  · cases ended
  · exact ended

theorem Under.next {rest other : σ → Outcome ε σ} (under : short.Under long)
    (goesOn : ∀ s, short = done s → (rest s).Under (other s)) :
    (short.next rest).Under (long.next other) := by
  rcases under with rfl | rfl
  · exact .inl rfl
  · cases short with
    | done s => exact goesOn s rfl
    | stopped e s => exact .refl _
    | exhausted => exact .refl _

-- From each bound to the next one, and so to any larger one.
theorem under_of_le {outcome : Nat → Outcome ε σ}
    (larger : ∀ fuel, (outcome fuel).Under (outcome (fuel + 1))) {fuel more : Nat}
    (fewer : fuel ≤ more) : (outcome fuel).Under (outcome more) := by
  induction fewer with
  | refl => exact .refl _
  | step _ ih =>
    rcases ih with short | same
    · exact .inl short
    · rw [same]
      exact larger _

end Outcome

namespace HookHost

variable {σ : Type} [HookHost σ] {event : Event} {arguments : List Argument} {context : StepContext}

theorem emitFrom_under (fuel i : Nat) (s : σ) :
    (emitFrom event arguments fuel i s).Under (emitFrom event arguments (fuel + 1) i s) := by
  induction fuel generalizing i s with
  | zero => exact .inl rfl
  | succ fuel ih =>
    rw [emitFrom, emitFrom]
    cases ((hooks s).handlers event)[i]? with
    | none => exact .refl _
    | some registration => exact (Outcome.Under.refl _).next fun s _ => ih (i + 1) s

theorem afterStepFrom_under (fuel i : Nat) (s : σ) :
    (afterStepFrom context fuel i s).Under (afterStepFrom context (fuel + 1) i s) := by
  induction fuel generalizing i s with
  | zero => exact .inl rfl
  | succ fuel ih =>
    rw [afterStepFrom, afterStepFrom]
    cases (hooks s).rules[i]? with
    | none => exact .refl _
    | some rule =>
      dsimp only
      split
      · exact (Outcome.Under.refl _).next fun s _ => ih (i + 1) s
      · exact ih (i + 1) s

end HookHost

namespace Machine

variable {ρ ω : Type} [Writer ω] {m : Machine ρ ω} {event : Event} {arguments : List Argument}
  {entry : LogEntry}

theorem emitEvent_under (fuel : Nat) (m : Machine ρ ω) :
    (m.emitEvent fuel event arguments).Under (m.emitEvent (fuel + 1) event arguments) := by
  unfold emitEvent HookHost.emit
  rcases HookHost.emitFrom_under fuel 0 m with short | same
  · exact .inl (by rw [short])
  · rw [same]
    exact .refl _

theorem emitStep_under (fuel : Nat) (m : Machine ρ ω) :
    (m.emitStep fuel entry).Under (m.emitStep (fuel + 1) entry) := by
  unfold emitStep HookHost.afterStep
  rcases HookHost.afterStepFrom_under fuel 0 m with short | same
  · exact .inl (by rw [short])
  · rw [same]
    exact .refl _

-- Nobody is told of an event without handlers, whatever the bound is.
theorem emitEvent_of_nil (none : m.hooks.handlers event = []) (fuel : Nat) :
    m.emitEvent (fuel + 1) event arguments = .done m := by
  have nobody : (HookHost.hooks m).handlers event = [] := none
  simp [emitEvent, HookHost.emit, HookHost.emitFrom, nobody]

theorem emitStep_of_nil (none : m.hooks.rules = []) (fuel : Nat) :
    m.emitStep (fuel + 1) entry = .done m := by
  have nobody : (HookHost.hooks m).rules = [] := none
  simp [emitStep, HookHost.afterStep, HookHost.afterStepFrom, nobody]

theorem raise_under (fuel : Nat) (error : RunError) (m : Machine ρ ω) :
    (m.raise fuel error).Under (m.raise (fuel + 1) error) :=
  (emitEvent_under fuel m).next fun _ _ => .refl _

theorem conclude_under {short long : Outcome Fault (Machine ρ ω)} (under : short.Under long)
    (fuel : Nat) : (conclude fuel short).Under (conclude (fuel + 1) long) := by
  rcases under with rfl | rfl
  · exact .inl rfl
  cases short with
  | done m => exact emitEvent_under fuel m
  | stopped fault m =>
    cases fault with
    | run error => exact raise_under fuel error m
    | failure failure =>
      simp only [conclude]
      cases m.refuse (.internal failure) with
      | run error => exact raise_under fuel error m
      | failure failure => exact .refl _
  | exhausted => exact .refl _

-- It does not matter which bound a call of handlers has ended within.
theorem emitEvent_unique {fuel other : Nat} {next : Machine ρ ω}
    (told : m.emitEvent fuel event arguments = .done next)
    (ends : m.emitEvent other event arguments ≠ .exhausted) :
    m.emitEvent other event arguments = .done next := by
  -- Both agree with the larger of the two bounds.
  have larger {bound : Nat} (fewer : bound ≤ max fuel other) :
      (m.emitEvent bound event arguments).Under (m.emitEvent (max fuel other) event arguments) :=
    Outcome.under_of_le (emitEvent_under · m) fewer
  rw [← (larger (Nat.le_max_right ..)).eq ends]
  exact (larger (Nat.le_max_left ..)).eq_done told

end Machine

end TapeLang
