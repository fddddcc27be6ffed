/-! The most recent items of a sequence, at most as many as a capacity allows.

Items are kept in two generations. Once the newer one has as many items as the capacity it becomes
the older one, so adding an item takes constant time and no more than twice the capacity is held. -/

set_option autoImplicit false

namespace TapeLang

structure Recent (α : Type) where
  /-- Nothing means that every item is kept. -/
  capacity : Option Nat
  newer : List α := []
  older : List α := []
  count : Nat := 0
  count_eq : count = newer.length := by rfl

namespace Recent

variable {α : Type}

def newestFirst (recent : Recent α) : List α :=
  match recent.capacity with
  | none => recent.newer ++ recent.older
  | some n => (recent.newer ++ recent.older).take n

def toList (recent : Recent α) : List α := recent.newestFirst.reverse

def size (recent : Recent α) : Nat := recent.newestFirst.length

def last? (recent : Recent α) : Option α := recent.newestFirst.head?

def push (recent : Recent α) (x : α) : Recent α :=
  match recent with
  | ⟨capacity, newer, older, count, count_eq⟩ =>
    if capacity = some (count + 1) then ⟨capacity, [], x :: newer, 0, rfl⟩
    else ⟨capacity, x :: newer, older, count + 1, by simp [count_eq]⟩

/-- A new item comes first, and the others are kept as far as the capacity allows. -/
theorem newestFirst_push (recent : Recent α) (x : α) :
    (recent.push x).newestFirst =
      match recent.capacity with
      | none => x :: recent.newestFirst
      | some n => (x :: recent.newestFirst).take n := by
  obtain ⟨capacity, newer, older, count, rfl⟩ := recent
  by_cases full : capacity = some (newer.length + 1)
  · subst full
    simp [push, newestFirst, List.take_take]
  · rw [push, if_neg full]
    cases capacity with
    | none => rfl
    | some n => cases n <;> simp [newestFirst, List.take_take]

end Recent

end TapeLang
