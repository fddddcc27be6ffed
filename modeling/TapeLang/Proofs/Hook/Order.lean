import TapeLang.Proofs.Hook.Actions
import TapeLang.Proofs.Outcome

/-! The order of handlers.

Handlers of an event stand by descending priority, and those of one priority in the order of their
registration. What registrations add to a list stands between the handlers that were there before, and
behind a handler of at least its own priority. -/

set_option autoImplicit false

namespace TapeLang

def Hook.registration? (hook : Hook) (extension : String) (event : Event) : Option Registration :=
  match hook with
  | .event id name priority _ tasks =>
    if Event.ofName? name = some event then some ⟨priority, extension, { id, tasks }⟩ else none
  | .rule .. => none

namespace HookRegistry

def Ordered (handlers : List Registration) : Prop :=
  handlers.Pairwise fun first second => second.priority ≤ first.priority

instance (handlers : List Registration) : Decidable (Ordered handlers) :=
  inferInstanceAs (Decidable (handlers.Pairwise fun first second => second.priority ≤ first.priority))

section
variable {handlers : List Registration} {new : Registration}

-- A registration goes between those that precede it and one that does not.
theorem exists_insert (new : Registration) (handlers : List Registration) :
    ∃ before after, handlers = before ++ after ∧ insert new handlers = before ++ new :: after ∧
      (∀ registration ∈ before, new.priority ≤ registration.priority) ∧
      ∀ registration, after.head? = some registration → registration.priority < new.priority := by
  induction handlers with
  | nil => exact ⟨[], [], rfl, rfl, by simp, by simp⟩
  | cons first rest ih =>
    by_cases precedes : new.priority ≤ first.priority
    · obtain ⟨before, after, rfl, inserted, higher, lower⟩ := ih
      refine ⟨first :: before, after, rfl, ?_, ?_, lower⟩
      · simp only [insert, if_pos precedes, inserted, List.cons_append]
      · simpa [precedes] using higher
    · refine ⟨[], first :: rest, rfl, ?_, by simp, ?_⟩
      · simp only [insert, if_neg precedes, List.nil_append]
      · simpa using precedes

theorem length_insert (new : Registration) (handlers : List Registration) :
    (insert new handlers).length = handlers.length + 1 := by
  obtain ⟨before, after, rfl, inserted, _⟩ := exists_insert new handlers
  simp [inserted, Nat.add_assoc]

theorem Ordered.lt_of_head {bound : Int} (ordered : Ordered handlers)
    (head : ∀ first, handlers.head? = some first → first.priority < bound) :
    ∀ registration ∈ handlers, registration.priority < bound := by
  intro registration member
  cases handlers with
  | nil => cases member
  | cons first rest =>
    have low := head first rfl
    rcases List.mem_cons.mp member with rfl | member
    · exact low
    · have := (List.pairwise_cons.mp ordered).1 registration member
      omega

theorem Ordered.insert (ordered : Ordered handlers) (new : Registration) :
    Ordered (insert new handlers) := by
  obtain ⟨before, after, rfl, inserted, higher, lower⟩ := exists_insert new handlers
  obtain ⟨first, second, across⟩ := List.pairwise_append.mp ordered
  have behind := Ordered.lt_of_head second lower
  rw [inserted]
  refine List.pairwise_append.mpr ⟨first, List.pairwise_cons.mpr ⟨?_, second⟩, ?_⟩
  · exact fun registration member => Int.le_of_lt (behind registration member)
  · intro registration member other later
    rcases List.mem_cons.mp later with rfl | later
    · exact higher registration member
    · exact across registration member other later

-- Only priorities count.
theorem ordered_iff : Ordered handlers ↔
    (handlers.map Registration.priority).Pairwise fun first second => second ≤ first := by
  rw [Ordered, List.pairwise_map]

theorem Ordered.set {i : Nat} {registration : Registration} (ordered : Ordered handlers)
    (found : handlers[i]? = some registration) (same : new.priority = registration.priority) :
    Ordered (handlers.set i new) := by
  rw [ordered_iff, map_set_same found same]
  exact ordered_iff.mp ordered

-- From any position on, what was there before is still there, and in the same order.
theorem drop_sublist_insert (new : Registration) (handlers : List Registration) (i : Nat) :
    (handlers.drop i).Sublist ((insert new handlers).drop i) := by
  obtain ⟨before, after, rfl, inserted, _⟩ := exists_insert new handlers
  rw [inserted, List.drop_append, List.drop_append]
  refine (List.Sublist.refl _).append ?_
  cases i - before.length with
  | zero => exact List.sublist_cons_self new after
  | succ k => exact List.drop_sublist_drop_left after (Nat.le_succ k)

/-- A registration of no higher priority than a handler goes behind it. -/
theorem Ordered.take_insert {i : Nat} {registration : Registration} (ordered : Ordered handlers)
    (found : handlers[i]? = some registration) (low : new.priority ≤ registration.priority) :
    (HookRegistry.insert new handlers).take (i + 1) = handlers.take (i + 1) := by
  obtain ⟨before, after, rfl, inserted, _, lower⟩ := exists_insert new handlers
  -- Otherwise the handler would stand behind one of lower priority.
  have inside : i < before.length := by
    refine Nat.lt_of_not_le fun outside => ?_
    rw [List.getElem?_append_right outside] at found
    obtain ⟨_, second, _⟩ := List.pairwise_append.mp ordered
    have := Ordered.lt_of_head second lower registration (List.mem_of_getElem? found)
    omega
  rw [inserted, List.take_append_of_le_length inside, List.take_append_of_le_length inside]

end

/-- One list of handlers becomes the other by registrations of the priorities allowed. -/
inductive Grows (allowed : Int → Prop) : List Registration → List Registration → Prop where
  | refl (handlers : List Registration) : Grows allowed handlers handlers
  | insert {handlers others : List Registration} {new : Registration} : allowed new.priority →
      Grows allowed (insert new handlers) others → Grows allowed handlers others

section
variable {allowed : Int → Prop} {handlers others : List Registration}

theorem Grows.length_le (grows : Grows allowed handlers others) :
    handlers.length ≤ others.length := by
  induction grows with
  | refl => exact Nat.le_refl _
  | insert _ _ ih =>
    rw [length_insert] at ih
    omega

theorem Grows.ordered (grows : Grows allowed handlers others) (ordered : Ordered handlers) :
    Ordered others := by
  induction grows with
  | refl => exact ordered
  | insert _ _ ih => exact ih (ordered.insert _)

theorem Grows.drop_sublist (grows : Grows allowed handlers others) (i : Nat) :
    (handlers.drop i).Sublist (others.drop i) := by
  induction grows with
  | refl => exact .refl _
  | insert _ _ ih => exact (drop_sublist_insert _ _ i).trans ih

theorem Grows.take_eq {i : Nat} {registration : Registration} (grows : Grows allowed handlers others)
    (ordered : Ordered handlers) (found : handlers[i]? = some registration)
    (low : ∀ priority, allowed priority → priority ≤ registration.priority) :
    others.take (i + 1) = handlers.take (i + 1) := by
  induction grows with
  | refl => rfl
  | @insert handlers others new permitted _ ih =>
    have same := ordered.take_insert found (low _ permitted)
    have foundToo : (HookRegistry.insert new handlers)[i]? = some registration := by
      rw [← List.getElem?_take_of_succ, same, List.getElem?_take_of_succ, found]
    rw [ih (ordered.insert new) foundToo, same]

end

/-! ## Registrations -/

variable {registry other : HookRegistry} {extension : String}

/-- What a hook's registration makes of the handlers of an event. -/
theorem handlers_of_register {hook : Hook} (registered : registry.register extension hook = .ok other)
    (event : Event) :
    other.handlers event =
      match hook.registration? extension event with
      | some new => insert new (registry.handlers event)
      | none => registry.handlers event := by
  cases hook with
  | event id name priority style tasks =>
    simp only [register, enterIn_eq, onEvent] at registered
    cases named : Event.ofName? name with
    | none =>
      rw [named] at registered
      cases registered
    | some own =>
      rw [named] at registered
      cases registered
      by_cases same : own = event
      · subst same
        simp only [Hook.registration?, named, if_true, handlers_setHandlers]
      · simp only [Hook.registration?, named, Option.some.injEq, same, if_false,
          handlers_setHandlers_of_ne (Ne.symm same)]
  | rule id name every style tasks =>
    simp only [register, enterIn_eq, everySteps] at registered
    split at registered <;> cases registered
    cases event <;> rfl

theorem rules_of_register {hook : Hook} (registered : registry.register extension hook = .ok other) :
    registry.rules <+: other.rules := by
  cases hook with
  | event id name priority style tasks =>
    simp only [register, enterIn_eq, onEvent] at registered
    split at registered <;> cases registered
    simp only [rules_setHandlers, List.prefix_rfl]
  | rule id name every style tasks =>
    simp only [register, enterIn_eq, everySteps] at registered
    split at registered <;> cases registered
    exact List.prefix_append _ _

/-- A registration keeps the handlers of every event in order. -/
theorem ordered_of_register {hook : Hook} (registered : registry.register extension hook = .ok other)
    {event : Event} (ordered : Ordered (registry.handlers event)) :
    Ordered (other.handlers event) := by
  rw [handlers_of_register registered]
  split
  · exact ordered.insert _
  · exact ordered

def registerAll (registry : HookRegistry) (extension : String) (hooks : List Hook) :
    Except Failure HookRegistry :=
  hooks.foldlM (fun registry hook => registry.register extension hook) registry

theorem registerAll_cons {hook : Hook} {hooks : List Hook} :
    registry.registerAll extension (hook :: hooks) =
      (registry.register extension hook).bind fun registry => registry.registerAll extension hooks :=
  List.foldlM_cons

theorem registerAll_append {hooks more : List Hook}
    (registered : registry.registerAll extension hooks = .ok other) :
    registry.registerAll extension (hooks ++ more) = other.registerAll extension more := by
  rw [registerAll] at registered ⊢
  rw [List.foldlM_append, registered]
  rfl

theorem grows_of_registerAll {hooks : List Hook}
    (registered : registry.registerAll extension hooks = .ok other) (event : Event) :
    Grows (fun priority => ∃ hook ∈ hooks, ∃ new, hook.registration? extension event = some new ∧
      new.priority = priority) (registry.handlers event) (other.handlers event) := by
  -- The priorities of the hooks that are left are among those of all.
  suffices grows : ∀ allowed : Int → Prop, (∀ hook ∈ hooks, ∀ new,
      hook.registration? extension event = some new → allowed new.priority) →
      Grows allowed (registry.handlers event) (other.handlers event) from
    grows _ fun hook member new found => ⟨hook, member, new, found, rfl⟩
  intro allowed permitted
  induction hooks generalizing registry with
  | nil =>
    cases registered
    exact .refl _
  | cons hook hooks ih =>
    rw [registerAll_cons] at registered
    obtain ⟨next, first, others⟩ := bind_eq_ok.mp registered
    have rest := ih others fun hook member => permitted hook (.tail _ member)
    rw [handlers_of_register first] at rest
    split at rest
    · exact .insert (permitted hook (.head _) _ ‹_›) rest
    · exact rest

theorem ordered_of_registerAll {hooks : List Hook} {event : Event}
    (registered : registry.registerAll extension hooks = .ok other)
    (ordered : Ordered (registry.handlers event)) : Ordered (other.handlers event) :=
  (grows_of_registerAll registered event).ordered ordered

theorem rules_of_registerAll {hooks : List Hook}
    (registered : registry.registerAll extension hooks = .ok other) :
    registry.rules <+: other.rules := by
  induction hooks generalizing registry with
  | nil =>
    cases registered
    exact List.prefix_refl _
  | cons hook hooks ih =>
    rw [registerAll_cons] at registered
    obtain ⟨next, first, others⟩ := bind_eq_ok.mp registered
    exact (rules_of_register first).trans (ih others)

end HookRegistry

end TapeLang
