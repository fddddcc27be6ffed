/-! Outcomes of a computation over a state that is given a bound on its length. -/

set_option autoImplicit false

namespace TapeLang

inductive Outcome (ε σ : Type) where
  | done (state : σ)
  /-- Ended by an error, which leaves a state behind. -/
  | stopped (error : ε) (state : σ)
  /-- The bound was too small. -/
  | exhausted

namespace Outcome

variable {ε σ : Type}

/-- Goes on from the state of a computation that was not stopped. -/
@[inline] def next (outcome : Outcome ε σ) (rest : σ → Outcome ε σ) : Outcome ε σ :=
  match outcome with
  | done state => rest state
  | stopped error state => stopped error state
  | exhausted => exhausted

@[simp] theorem next_done (s : σ) (rest : σ → Outcome ε σ) : (done s).next rest = rest s := rfl

@[simp] theorem next_stopped (e : ε) (s : σ) (rest : σ → Outcome ε σ) :
    (stopped e s).next rest = stopped e s := rfl

@[simp] theorem next_exhausted (rest : σ → Outcome ε σ) :
    (exhausted : Outcome ε σ).next rest = exhausted := rfl

end Outcome

end TapeLang
