import TapeLang.Log.Steps

/-! What a log keeps of the steps that it was given. -/

set_option autoImplicit false

namespace TapeLang

def clip {α : Type} (capacity : Option Nat) (items : List α) : List α :=
  match capacity with
  | none => items
  | some n => items.take n

section
variable {α β : Type}

theorem clip_cons_clip (capacity : Option Nat) (x : α) (items : List α) :
    clip capacity (x :: clip capacity items) = clip capacity (x :: items) := by
  cases capacity with
  | none => rfl
  | some n => cases n <;> simp [clip, List.take_take]

theorem map_clip (f : α → β) (capacity : Option Nat) (items : List α) :
    (clip capacity items).map f = clip capacity (items.map f) := by
  cases capacity with
  | none => rfl
  | some n => exact List.map_take

theorem head?_clip {capacity : Option Nat} (room : capacity ≠ some 0) (items : List α) :
    (clip capacity items).head? = items.head? := by
  cases capacity with
  | none => rfl
  | some n =>
    have positive : n ≠ 0 := fun zero => room (congrArg some zero)
    simp [clip, List.head?_take, positive]

@[simp] theorem clip_zero (items : List α) : clip (some 0) items = [] := by simp [clip]

namespace Recent

variable (recent : Recent α) (x : α)

@[simp] theorem capacity_push : (recent.push x).capacity = recent.capacity := by
  obtain ⟨capacity, newer, older, count, _⟩ := recent
  simp only [push]
  split <;> rfl

theorem newestFirst_push_eq :
    (recent.push x).newestFirst = clip recent.capacity (x :: recent.newestFirst) := by
  rw [newestFirst_push]
  cases recent.capacity <;> rfl

end Recent

end

namespace StepLog

def kept (history : Option Int) : Option Nat := history.map Int.toNat

theorem capacity_eq_ok {history : Option Int} {capacity : Option Nat} :
    StepLog.capacity history = .ok capacity ↔
      capacity = kept history ∧ ∀ n, history = some n → 0 ≤ n ∧ n < Failure.wordBound := by
  cases history with
  | none => simp [StepLog.capacity, kept, eq_comm]
  | some n =>
    have fits : (0 ≤ n && Failure.fitsWord n) = true ↔ 0 ≤ n ∧ n < Failure.wordBound := by
      simp only [Failure.fitsWord, Bool.and_eq_true, decide_eq_true_eq]
      unfold Failure.wordBound
      omega
    simp only [StepLog.capacity, kept, Option.map_some, Option.some.injEq, forall_eq', ← fits]
    split <;> simp [*, eq_comm]

theorem kept_eq_zero {history : Option Int} {capacity : Option Nat}
    (valid : StepLog.capacity history = .ok capacity) : capacity = some 0 ↔ history = some 0 := by
  obtain ⟨rfl, fits⟩ := capacity_eq_ok.mp valid
  cases history with
  | none => simp [kept]
  | some n =>
    have start := (fits n rfl).1
    simp only [kept, Option.map_some, Option.some.injEq]
    omega

/-- A log that was given the entries `all`, the newest first, and keeps what its capacity allows. -/
structure Keeps (log : StepLog) (capacity : Option Nat) (all : List LogEntry) : Prop where
  room : log.entries.capacity = capacity
  entries : log.entries.newestFirst = clip capacity all
  stepCount : log.stepCount = all.length

variable {log : StepLog} {capacity : Option Nat} {all : List LogEntry}

theorem keeps_empty (verbose : Bool) (capacity : Option Nat) :
    (empty verbose capacity).Keeps capacity [] := by
  refine ⟨rfl, ?_, rfl⟩
  cases capacity with
  | none => rfl
  | some n => simp [empty, Recent.newestFirst, clip]

theorem Keeps.record (keeps : log.Keeps capacity all) (entry : LogEntry) :
    (log.record entry).Keeps capacity (entry :: all) where
  room := (log.entries.capacity_push entry).trans keeps.room
  entries := by
    have pushed : (log.record entry).entries = log.entries.push entry := rfl
    rw [pushed, Recent.newestFirst_push_eq, keeps.room, keeps.entries, clip_cons_clip]
  stepCount := congrArg (· + 1) keeps.stepCount

theorem Keeps.last? (keeps : log.Keeps capacity all) :
    log.last? = if capacity = some 0 then none else all.head? := by
  have first : log.last? = (clip capacity all).head? := congrArg List.head? keeps.entries
  rw [first]
  split
  · rename_i none
    rw [none, clip_zero, List.head?_nil]
  · rename_i room
    exact head?_clip room all

end StepLog

end TapeLang
