import TapeLang.Outcome

/-! What can be said of a result, of an outcome, and of two outcomes at once. -/

set_option autoImplicit false

namespace TapeLang

/-- A computation in two parts gives a result if each of them does. -/
theorem bind_eq_ok {ε α β : Type} {first : Except ε α} {rest : α → Except ε β} {result : β} :
    first >>= rest = .ok result ↔ ∃ given, first = .ok given ∧ rest given = .ok result := by
  cases first with
  | error failure => exact ⟨nofun, nofun⟩
  | ok given =>
    refine ⟨fun gives => ⟨given, rfl, gives⟩, ?_⟩
    rintro ⟨_, ⟨⟩, gives⟩
    exact gives

namespace Outcome

variable {ε σ τ : Type}

/-- What holds at the end of a computation, and what if it is stopped. -/
def Ends (P : σ → Prop) (Q : ε → σ → Prop) : Outcome ε σ → Prop
  | done s => P s
  | stopped e s => Q e s
  | exhausted => True

section
variable {P P' : σ → Prop} {Q Q' : ε → σ → Prop} {outcome : Outcome ε σ}
  {rest : σ → Outcome ε σ}

theorem Ends.imp (ends : outcome.Ends P Q) (done : ∀ s, P s → P' s)
    (stopped : ∀ e s, Q e s → Q' e s) : outcome.Ends P' Q' := by
  cases outcome with
  | done s => exact done s ends
  | stopped e s => exact stopped e s ends
  | exhausted => trivial

theorem Ends.next (first : outcome.Ends P Q) (goesOn : ∀ s, P s → (rest s).Ends P' Q) :
    (outcome.next rest).Ends P' Q := by
  cases outcome with
  | done s => exact goesOn s first
  | stopped e s => exact first
  | exhausted => trivial

theorem Ends.next_ne_exhausted (ends : outcome.Ends P Q) (first : outcome ≠ exhausted)
    (goesOn : ∀ s, P s → rest s ≠ exhausted) : outcome.next rest ≠ exhausted := by
  cases outcome with
  | done s => exact goesOn s ends
  | stopped e s => exact nofun
  | exhausted => exact absurd rfl first

theorem Ends.and (first : outcome.Ends P Q) (second : outcome.Ends P' Q') :
    outcome.Ends (fun s => P s ∧ P' s) fun e s => Q e s ∧ Q' e s := by
  cases outcome with
  | done s => exact ⟨first, second⟩
  | stopped e s => exact ⟨first, second⟩
  | exhausted => trivial

end

theorem next_next (outcome : Outcome ε σ) (rest more : σ → Outcome ε σ) :
    (outcome.next rest).next more = outcome.next fun s => (rest s).next more := by
  cases outcome <;> rfl

theorem next_pure (outcome : Outcome ε σ) : outcome.next done = outcome := by
  cases outcome <;> rfl

theorem next_eq_done {outcome : Outcome ε σ} {rest : σ → Outcome ε σ} {t : σ} :
    outcome.next rest = done t ↔ ∃ s, outcome = done s ∧ rest s = done t := by
  cases outcome <;> simp

def done? : Outcome ε σ → Option σ
  | done s => some s
  | stopped _ _ | exhausted => none

theorem done?_eq_some {outcome : Outcome ε σ} {s : σ} :
    outcome.done? = some s ↔ outcome = done s := by
  cases outcome <;> simp [done?]

def map (f : σ → τ) : Outcome ε σ → Outcome ε τ
  | done s => done (f s)
  | stopped e s => stopped e (f s)
  | exhausted => exhausted

section
variable {f : σ → τ}

theorem map_next {outcome : Outcome ε σ} {rest : σ → Outcome ε σ} {other : τ → Outcome ε τ}
    (same : ∀ s, (rest s).map f = other (f s)) :
    (outcome.next rest).map f = (outcome.map f).next other := by
  cases outcome with
  | done s => exact same s
  | stopped e s => rfl
  | exhausted => rfl

-- The other way round, for a rest that is known after the view.
theorem next_map {outcome : Outcome ε σ} {rest : σ → Outcome ε σ} {other : τ → Outcome ε τ}
    (same : ∀ s, other (f s) = (rest s).map f) :
    (outcome.map f).next other = (outcome.next rest).map f :=
  (map_next fun s => (same s).symm).symm

theorem ends_map {P : τ → Prop} {Q : ε → τ → Prop} {outcome : Outcome ε σ} :
    (outcome.map f).Ends P Q ↔ outcome.Ends (fun s => P (f s)) fun e s => Q e (f s) := by
  cases outcome <;> exact Iff.rfl

theorem map_eq_done {outcome : Outcome ε σ} {t : τ} :
    outcome.map f = done t ↔ ∃ s, outcome = done s ∧ f s = t := by
  cases outcome <;> simp [map]

theorem map_eq_stopped {outcome : Outcome ε σ} {e : ε} {t : τ} :
    outcome.map f = stopped e t ↔ ∃ s, outcome = stopped e s ∧ f s = t := by
  cases outcome <;> simp [map, and_assoc]

end

/-- Outcomes of two computations that end alike, or not at all. -/
inductive Alike (E : ε → ε → Prop) (R : σ → τ → Prop) : Outcome ε σ → Outcome ε τ → Prop where
  | done {s : σ} {t : τ} : R s t → Alike E R (done s) (done t)
  | stopped {e f : ε} {s : σ} {t : τ} : E e f → R s t → Alike E R (stopped e s) (stopped f t)
  | exhausted : Alike E R exhausted exhausted

section
variable {E E' : ε → ε → Prop} {R R' : σ → τ → Prop} {left : Outcome ε σ} {right : Outcome ε τ}
  {after : σ → Outcome ε σ} {later : τ → Outcome ε τ}

theorem Alike.imp (alike : Alike E R left right) (errors : ∀ e f, E e f → E' e f)
    (states : ∀ s t, R s t → R' s t) : Alike E' R' left right := by
  cases alike with
  | done same => exact .done (states _ _ same)
  | stopped error same => exact .stopped (errors _ _ error) (states _ _ same)
  | exhausted => exact .exhausted

theorem Alike.next (alike : Alike E R left right) (stops : ∀ s t, R s t → R' s t)
    (goesOn : ∀ s t, R s t → Alike E R' (after s) (later t)) :
    Alike E R' (left.next after) (right.next later) := by
  cases alike with
  | done same => exact goesOn _ _ same
  | stopped error same => exact .stopped error (stops _ _ same)
  | exhausted => exact .exhausted

theorem Alike.and_ends {P : σ → Prop} {Q : τ → Prop} (alike : Alike E R left right)
    (first : left.Ends P fun _ => P) (second : right.Ends Q fun _ => Q) :
    Alike E (fun s t => R s t ∧ P s ∧ Q t) left right := by
  cases alike with
  | done same => exact .done ⟨same, first, second⟩
  | stopped error same => exact .stopped error ⟨same, first, second⟩
  | exhausted => exact .exhausted

theorem Alike.eq_map {f : σ → τ} (alike : Alike (· = ·) (fun s t => t = f s) left right) :
    right = left.map f := by
  cases alike with
  | done same => exact congrArg Outcome.done same
  | stopped error same =>
    rw [← error, same]
    rfl
  | exhausted => rfl

theorem Alike.ends_iff (alike : Alike E R left right) :
    left ≠ Outcome.exhausted ↔ right ≠ Outcome.exhausted := by
  cases alike <;> simp

theorem Alike.next_ne_exhausted (alike : Alike E R left right)
    (ends : right.next later ≠ Outcome.exhausted)
    (goesOn : ∀ s t, R s t → later t ≠ Outcome.exhausted → after s ≠ Outcome.exhausted) :
    left.next after ≠ Outcome.exhausted := by
  cases alike with
  | done same => exact goesOn _ _ same ends
  | stopped error same => exact nofun
  | exhausted => exact absurd rfl ends

/-- The left computation ends as the right one does, if its bound is big enough or it ends at all. -/
def Shadows (enough : Prop) (E : ε → ε → Prop) (R : σ → τ → Prop) (left : Outcome ε σ)
    (right : Outcome ε τ) : Prop :=
  enough ∨ left ≠ exhausted → Alike E R left right

variable {enough : Prop}

theorem Shadows.next (first : Shadows enough E R left right)
    (goesOn : ∀ s t, R s t → Shadows enough E R (after s) (later t)) :
    Shadows enough E R (left.next after) (right.next later) := by
  intro ends
  cases left with
  | done s =>
    cases first (.inr nofun) with
    | done same => exact goesOn _ _ same ends
  | stopped e s =>
    cases first (.inr nofun) with
    | stopped error same => exact .stopped error same
  | exhausted =>
    cases first (.inl (ends.resolve_right (absurd rfl))) with
    | exhausted => exact .exhausted

theorem Shadows.imp {enough' : Prop} (shadows : Shadows enough E R left right)
    (implies : enough' → enough) : Shadows enough' E R left right :=
  fun ends => shadows (ends.imp_left implies)

/-- A computation that is never stopped, and that ends if its bound is big enough. -/
structure Passes {ε σ : Type} (enough : Prop) (P : σ → Prop) (outcome : Outcome ε σ) : Prop where
  ends : outcome.Ends P fun _ _ => False
  bounded : enough → outcome ≠ exhausted

theorem passes_done {P : σ → Prop} {s : σ} (holds : P s) :
    (done s : Outcome ε σ).Passes enough P := ⟨holds, nofun⟩

theorem Passes.imp {enough' : Prop} {P : σ → Prop} (passes : left.Passes enough P)
    (implies : enough' → enough) : left.Passes enough' P :=
  ⟨passes.ends, fun holds => passes.bounded (implies holds)⟩

theorem Passes.shadows {P : σ → Prop} {t : τ} (passes : left.Passes enough P)
    (states : ∀ s, P s → R s t) : Shadows enough E R left (done t) := by
  intro ends
  cases left with
  | done s => exact .done (states s passes.ends)
  | stopped e s => exact absurd passes.ends id
  | exhausted => exact absurd rfl (ends.elim passes.bounded id)

-- On the left alone it does not count.
theorem Passes.next_shadows {P : σ → Prop} (first : left.Passes enough P)
    (goesOn : ∀ s, P s → Shadows enough E R (after s) right) :
    Shadows enough E R (left.next after) right := by
  intro ends
  cases left with
  | done s => exact goesOn s first.ends ends
  | stopped e s => exact absurd first.ends id
  | exhausted => exact absurd rfl (ends.elim first.bounded id)

end

end Outcome

end TapeLang
