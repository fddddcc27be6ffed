import TapeLang.Machine.Run
import TapeLang.Proofs.Decimal.Numerals

/-! What stops a run that cannot go on: an error, unless it cannot be told. -/

set_option autoImplicit false

namespace TapeLang

namespace Fault

variable {error : RunError} {why : Unwritable}

theorem ofError_of_message {message : String} (worded : error.reason.message = .ok message) :
    ofError error = .run error := by rw [ofError, worded]

theorem ofError_of_unwritable (unworded : error.reason.message = .error why) :
    ofError error = .failure (.unwritable why) := by rw [ofError, unworded]

/-- An error is told, or there is no telling it. -/
theorem ofError_cases (error : RunError) :
    ofError error = .run error ∨
      ∃ why, error.reason.message = .error why ∧ ofError error = .failure (.unwritable why) := by
  cases worded : error.reason.message with
  | ok message => exact .inl (ofError_of_message worded)
  | error why => exact .inr ⟨why, rfl, ofError_of_unwritable worded⟩

-- There is a counter where an error has been put together.
theorem ofError_ne_noCounter (error : RunError) : ofError error ≠ .failure .noCounter := by
  rcases ofError_cases error with told | ⟨why, _, fails⟩
  · exact told ▸ nofun
  · exact fails ▸ nofun

end Fault

def Fault.HasWords : Fault → Prop
  | run _ => True
  | failure cause => ∃ message, cause.message = .ok message

theorem Fault.hasWords_unwritable (why : Unwritable) : (failure (.unwritable why)).HasWords := by
  cases why <;> exact ⟨_, rfl⟩

/-- A move that starts on the tape can be told. -/
theorem Reason.exists_message_moved (direction : Direction) {cell : Nat} (inside : cell < Tape.size) :
    ∃ message, (pointerMoved direction ↑cell).message = .ok message := by
  have few : (↑cell : Int).natAbs < 10 ^ 5 := Nat.lt_trans inside (by decide)
  rw [message, Decimal.numeral_of_writable (Decimal.writable_of_lt few (by decide))]
  exact ⟨_, rfl⟩

theorem Failure.message_eq_error {failure : Failure} {why : Unwritable} :
    failure.message = .error why ↔ ∃ name, failure = .unworded name why := by
  refine ⟨fun fails => ?_, ?_⟩
  · unfold message at fails
    split at fails <;> cases fails
    exact ⟨_, rfl⟩
  · rintro ⟨name, rfl⟩
    rfl

/-- A reason that only passes on what a failure says is without words if the failure is. -/
theorem Reason.message_eq_error {failure : Failure} {why : Unwritable} {reason : Reason}
    (passes : (∃ channel, reason = .channelFailed channel failure) ∨
      (∃ event, reason = .hookFailed event failure) ∨ reason = .ruleFailed failure ∨
      reason = .internal failure) :
    reason.message = .error why ↔ failure.message = .error why := by
  rcases passes with ⟨_, rfl⟩ | ⟨_, rfl⟩ | rfl | rfl <;> rw [message] <;>
    cases failure.message <;> simp [bind, Except.bind, pure, Except.pure]

theorem Reason.message_internal {failure : Failure} {message : String}
    (worded : failure.message = .ok message) :
    (internal failure).message = .ok s!"Internal interpreter error: {message}" := by
  rw [Reason.message, worded]
  rfl

namespace Machine

variable {ρ ω : Type} {m : Machine ρ ω} {pc : Int}

theorem refuse_eq (counter : m.pc = some pc) (reason : Reason) :
    m.refuse reason = .ofError (m.errorHere reason) := by
  rw [refuse, counter]
  split
  · nomatch ‹some pc = none›
  · rfl

theorem refuse_of_message {reason : Reason} {message : String} (counter : m.pc = some pc)
    (worded : reason.message = .ok message) : m.refuse reason = .run (m.errorHere reason) :=
  (refuse_eq counter reason).trans (Fault.ofError_of_message worded)

theorem refuse_cases (m : Machine ρ ω) (reason : Reason) :
    m.pc ≠ none ∧ m.refuse reason = .run (m.errorHere reason) ∨
      (∃ why, reason.message = .error why ∧ m.refuse reason = .failure (.unwritable why)) ∨
      m.pc = none ∧ m.refuse reason = .failure .noCounter := by
  rcases Fault.ofError_cases (m.errorHere reason) with told | ⟨why, untold, fails⟩
  · cases counter : m.pc with
    | none => exact .inr (.inr ⟨rfl, by rw [refuse, told, counter]⟩)
    | some pc => exact .inl ⟨nofun, (refuse_eq counter reason).trans told⟩
  · exact .inr (.inl ⟨why, untold, by rw [refuse, fails]⟩)

theorem hasWords_refuse (m : Machine ρ ω) (reason : Reason) : (m.refuse reason).HasWords := by
  rcases m.refuse_cases reason with ⟨_, told⟩ | ⟨why, _, untold⟩ | ⟨_, lost⟩
  · exact told ▸ trivial
  · exact untold ▸ Fault.hasWords_unwritable why
  · exact lost ▸ ⟨_, rfl⟩

end Machine

end TapeLang
