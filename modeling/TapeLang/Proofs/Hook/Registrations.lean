import Mathlib.Data.List.Forall2
import Mathlib.Data.List.Induction
import TapeLang.Hook.Services
import TapeLang.Proofs.Hook.Order

/-! Sequences of registrations.

Extensions register hooks one after another, and some of them are refused. Whatever the sequence, the
handlers of an event are those that were not refused, in the one order that a stable sort by descending
priority gives them, and the step rules stand in the order of their registration. -/

set_option autoImplicit false

namespace TapeLang

/-! ## Hooks that can be registered -/

namespace Hook

/-- Whether a hook can be registered: for an event that there is, or with a period of at least one. -/
def Valid : Hook → Prop
  | .event _ name _ _ _ => name ∈ Event.all.map Event.name
  | .rule _ _ every _ _ => 1 ≤ every

instance (hook : Hook) : Decidable hook.Valid :=
  match hook with
  | .event _ name _ _ _ => inferInstanceAs (Decidable (name ∈ Event.all.map Event.name))
  | .rule _ _ every _ _ => inferInstanceAs (Decidable (1 ≤ every))

def inStyle (style : Style) : Hook → Hook
  | .event id name priority _ tasks => .event id name priority style tasks
  | .rule id name every _ tasks => .rule id name every style tasks

def entry? (hook : Hook) (extension : String) : Option (Int × Handler × String × String) :=
  match hook with
  | .event .. => none
  | .rule id name every _ tasks =>
    if 1 ≤ every then
      some (every, { id, tasks }, extension, if name.isEmpty then id else name)
    else none

end Hook

def StepRule.entry (rule : StepRule) : Int × Handler × String × String :=
  (rule.every, rule.handler, rule.extension, rule.name)

theorem Event.ofName?_eq_none {name : String} : ofName? name = none ↔ name ∉ all.map Event.name := by
  simp only [ofName?, List.find?_eq_none, beq_iff_eq, List.mem_map, not_exists, not_and]

namespace HookRegistry

/-! ## Stable sorting -/

/-- Whether handlers are some registrations, each once, by descending priority, those of the same
priority in their order. -/
structure Sorts (registrations handlers : List Registration) : Prop where
  perm : handlers.Perm registrations
  ordered : Ordered handlers
  ties : ∀ priority : Int, handlers.filter (·.priority = priority) =
    registrations.filter (·.priority = priority)

def precedes (first second : Registration) : Bool := second.priority ≤ first.priority

section

variable {registrations handlers others : List Registration}

theorem sorts_nil : Sorts [] [] := ⟨.nil, .nil, fun _ => rfl⟩

theorem Sorts.insert (sorts : Sorts registrations handlers) (new : Registration) :
    Sorts (registrations ++ [new]) (insert new handlers) := by
  have ordered := sorts.ordered.insert new
  obtain ⟨before, after, rfl, inserted, _, lower⟩ := exists_insert new handlers
  obtain ⟨_, second, _⟩ := List.pairwise_append.mp sorts.ordered
  have behind := Ordered.lt_of_head second lower
  rw [inserted] at ordered ⊢
  refine ⟨?_, ordered, fun priority => ?_⟩
  · have moved : (before ++ new :: after).Perm (new :: (before ++ after)) := List.perm_middle
    exact moved.trans ((sorts.perm.cons new).trans (List.perm_append_singleton new _).symm)
  · have ties := sorts.ties priority
    rw [List.filter_append] at ties ⊢
    rw [List.filter_append, ← ties, List.filter_cons]
    by_cases same : new.priority = priority
    · -- Whatever stands behind the new registration has a lower priority.
      have none : after.filter (·.priority = priority) = [] := by
        refine List.filter_eq_nil_iff.mpr fun registration member => ?_
        have less := behind registration member
        simp only [decide_eq_true_eq]
        omega
      simp [same, none]
    · simp [same]

-- The first handler has the highest priority, and is the first of those that have it.
theorem Ordered.head_eq {first second : Registration} (left : Ordered (first :: handlers))
    (right : Ordered (second :: others)) (ties : ∀ priority : Int,
      (first :: handlers).filter (·.priority = priority) =
        (second :: others).filter (·.priority = priority)) : first = second := by
  have top {a b : Registration} {l r : List Registration} (sorted : Ordered (b :: r))
      (same : (a :: l).filter (·.priority = a.priority) = (b :: r).filter (·.priority = a.priority)) :
      a.priority ≤ b.priority := by
    have member : a ∈ (b :: r).filter (·.priority = a.priority) := by
      rw [← same]
      simp
    rcases List.mem_cons.mp (List.mem_of_mem_filter member) with rfl | later
    · exact Int.le_refl _
    · exact (List.pairwise_cons.mp sorted).1 a later
  have equal : first.priority = second.priority :=
    Int.le_antisymm (top right (ties _)) (top left (ties _).symm)
  have heads := ties second.priority
  simp only [List.filter_cons, equal, decide_true, if_true] at heads
  exact (List.cons.inj heads).1

theorem Ordered.eq_of_ties (left : Ordered handlers) (right : Ordered others)
    (ties : ∀ priority : Int, handlers.filter (·.priority = priority) =
      others.filter (·.priority = priority)) : handlers = others := by
  induction handlers generalizing others with
  | nil =>
    cases others with
    | nil => rfl
    | cons second others => simpa using ties second.priority
  | cons first handlers ih =>
    cases others with
    | nil => simpa using ties first.priority
    | cons second others =>
      obtain rfl := left.head_eq right ties
      refine congrArg _ (ih (List.pairwise_cons.mp left).2 (List.pairwise_cons.mp right).2 ?_)
      intro priority
      have whole := ties priority
      simp only [List.filter_cons] at whole
      split at whole
      · exact (List.cons.inj whole).2
      · exact whole

theorem sorts_mergeSort (registrations : List Registration) :
    Sorts registrations (registrations.mergeSort precedes) := by
  have trans (a b c : Registration) (first : precedes a b) (second : precedes b c) :
      precedes a c := by
    simp only [precedes, decide_eq_true_eq] at *
    omega
  have total (a b : Registration) : (precedes a b || precedes b a) = true := by
    simp only [precedes, Bool.or_eq_true, decide_eq_true_eq]
    omega
  have perm := List.mergeSort_perm registrations precedes
  refine ⟨perm, ?_, fun priority => ?_⟩
  · exact (List.pairwise_mergeSort trans total registrations).imp of_decide_eq_true
  · -- The registrations of one priority are in order, so they keep it, and there are as many.
    have kept : (registrations.filter (·.priority = priority)).Sublist
        (registrations.mergeSort precedes) := by
      refine List.sublist_mergeSort trans total ?_ List.filter_sublist
      refine List.pairwise_of_forall_mem_list fun first member second other => ?_
      have equal := of_decide_eq_true (List.mem_filter.mp member).2
      have same := of_decide_eq_true (List.mem_filter.mp other).2
      simp only [precedes, decide_eq_true_eq]
      omega
    have within := kept.filter (·.priority = priority)
    rw [List.filter_filter] at within
    simp only [Bool.and_self] at within
    exact (within.eq_of_length (perm.filter _).length_eq.symm).symm

/-- There is one stable sort. -/
theorem Sorts.eq_mergeSort (sorts : Sorts registrations handlers) :
    handlers = registrations.mergeSort precedes :=
  have merged := sorts_mergeSort registrations
  sorts.ordered.eq_of_ties merged.ordered fun priority =>
    (sorts.ties priority).trans (merged.ties priority).symm

end

/-! ## One registration -/

variable {registry other : HookRegistry} {extension : String} {hook : Hook}

theorem register_inStyle (registry : HookRegistry) (extension : String) (style : Style)
    (hook : Hook) :
    registry.register extension (hook.inStyle style) = registry.register extension hook := by
  cases hook <;> simp only [Hook.inStyle, register, enterIn_eq]

theorem exists_register (valid : hook.Valid) (registry : HookRegistry) (extension : String) :
    ∃ other, registry.register extension hook = .ok other := by
  cases hook with
  | event id name priority style tasks =>
    obtain ⟨event, named⟩ := Option.ne_none_iff_exists'.mp
      (mt Event.ofName?_eq_none.mp (not_not_intro valid))
    simp only [register, enterIn_eq, onEvent, named]
    exact ⟨_, rfl⟩
  | rule id name every style tasks =>
    have positive : 0 < every.toNat := by
      have one : 1 ≤ every := valid
      omega
    simp only [register, enterIn_eq, everySteps, dif_pos positive]
    exact ⟨_, rfl⟩

theorem exists_refusal (refused : ¬ hook.Valid) (registry : HookRegistry) (extension : String) :
    ∃ failure, registry.register extension hook = .error failure ∧
      failure.name = "BFExtensionError" := by
  cases hook with
  | event id name priority style tasks =>
    have named : Event.ofName? name = none := Event.ofName?_eq_none.mpr refused
    simp only [register, enterIn_eq, onEvent, named]
    exact ⟨_, rfl, rfl⟩
  | rule id name every style tasks =>
    have none : ¬ 0 < every.toNat := by
      have low : ¬ 1 ≤ every := refused
      omega
    simp only [register, enterIn_eq, everySteps, dif_neg none]
    exact ⟨_, rfl, rfl⟩

theorem registration?_of_refused (refused : ¬ hook.Valid) (extension : String) (event : Event) :
    hook.registration? extension event = none := by
  cases hook with
  | event id name priority style tasks =>
    have named : Event.ofName? name = none := Event.ofName?_eq_none.mpr refused
    simp [Hook.registration?, named]
  | rule => rfl

theorem entry?_of_refused (refused : ¬ hook.Valid) (extension : String) :
    hook.entry? extension = none := by
  cases hook with
  | event => rfl
  | rule id name every style tasks => exact if_neg refused

theorem entries_of_register (registered : registry.register extension hook = .ok other) :
    other.rules.map StepRule.entry =
      registry.rules.map StepRule.entry ++ (hook.entry? extension).toList := by
  cases hook with
  | event id name priority style tasks =>
    simp only [register, enterIn_eq, onEvent] at registered
    split at registered <;> cases registered
    simp [Hook.entry?]
  | rule id name every style tasks =>
    simp only [register, enterIn_eq, everySteps] at registered
    split at registered <;> cases registered
    have one : 1 ≤ every := by omega
    have period : (every.toNat : Int) = every := by omega
    simp [Hook.entry?, one, StepRule.entry, period]

end HookRegistry

/-! ## Sequences -/

structure Attempt where
  extension : String
  hook : Hook

namespace Attempt

def request (attempt : Attempt) : Switchboard.Request := .register attempt.extension attempt.hook

/-- How a registration is answered: it is made if it can be, and refused otherwise. -/
def Answered (attempt : Attempt) (answer : Except Fault Switchboard.Answer) : Prop :=
  if attempt.hook.Valid then answer = .ok .registered
  else ∃ failure : Failure, answer = .error (.failure failure) ∧ failure.name = "BFExtensionError"

/-- Whether registrations differ at most in the way they are written. -/
def Alike (attempt other : Attempt) : Prop :=
  attempt.extension = other.extension ∧ ∃ style, other.hook = attempt.hook.inStyle style

end Attempt

namespace Switchboard

def serve (fuel : Nat) :
    Switchboard → List Request → Option (List (Except Fault Answer) × Switchboard)
  | board, [] => some ([], board)
  | board, request :: rest =>
    (handle fuel board request).bind fun handled =>
      (serve fuel handled.2 rest).map fun served => (handled.1 :: served.1, served.2)

structure Registered (attempts : List Attempt) (answers : List (Except Fault Answer))
    (board : Switchboard) : Prop where
  answered : List.Forall₂ Attempt.Answered attempts answers
  handlers : ∀ event, HookRegistry.Sorts
    (attempts.filterMap fun attempt => attempt.hook.registration? attempt.extension event)
    (board.services.hooks.handlers event)
  rules : board.services.hooks.rules.map StepRule.entry =
    attempts.filterMap fun attempt => attempt.hook.entry? attempt.extension
  periods : ∀ rule ∈ board.services.hooks.rules, 1 ≤ rule.every

variable {fuel : Nat} {board : Switchboard} {attempt : Attempt}

theorem handle_valid (valid : attempt.hook.Valid) (fuel : Nat) (board : Switchboard) :
    ∃ hooks, board.services.hooks.register attempt.extension attempt.hook = .ok hooks ∧
      board.handle fuel attempt.request =
        some (.ok .registered, { board with services := { board.services with hooks } }) := by
  obtain ⟨hooks, registered⟩ :=
    HookRegistry.exists_register valid board.services.hooks attempt.extension
  refine ⟨hooks, registered, ?_⟩
  simp only [Attempt.request, handle, Services.register, registered]
  rfl

theorem handle_refused (refused : ¬ attempt.hook.Valid) (fuel : Nat) (board : Switchboard) :
    ∃ failure : Failure, failure.name = "BFExtensionError" ∧
      board.handle fuel attempt.request = some (.error (.failure failure), board) := by
  obtain ⟨failure, stopped, name⟩ :=
    HookRegistry.exists_refusal refused board.services.hooks attempt.extension
  refine ⟨failure, name, ?_⟩
  simp only [Attempt.request, handle, Services.register, stopped]
  rfl

theorem handle_alike {other : Attempt} (alike : attempt.Alike other) (fuel : Nat)
    (board : Switchboard) :
    board.handle fuel other.request = board.handle fuel attempt.request := by
  obtain ⟨extension, style, hook⟩ := alike
  simp only [Attempt.request, handle, Services.register, hook, ← extension,
    HookRegistry.register_inStyle]

theorem serve_snoc {requests : List Request} {request : Request} {middle last : Switchboard}
    {answers : List (Except Fault Answer)} {answer : Except Fault Answer}
    (served : board.serve fuel requests = some (answers, middle))
    (handled : middle.handle fuel request = some (answer, last)) :
    board.serve fuel (requests ++ [request]) = some (answers ++ [answer], last) := by
  induction requests generalizing board answers with
  | nil =>
    cases served
    simp [serve, handled]
  | cons first requests ih =>
    simp only [serve, Option.bind_eq_some_iff, Option.map_eq_some_iff] at served
    obtain ⟨one, first, ⟨others, _⟩, rest, whole⟩ := served
    cases whole
    rw [List.cons_append, serve, first, Option.bind_some, ih rest]
    rfl

theorem serve_alike {attempts others : List Attempt}
    (alike : List.Forall₂ Attempt.Alike attempts others) (fuel : Nat) (board : Switchboard) :
    board.serve fuel (others.map Attempt.request) =
      board.serve fuel (attempts.map Attempt.request) := by
  induction alike generalizing board with
  | nil => rfl
  | cons first _ ih =>
    simp only [List.map_cons, serve, handle_alike first, ih]

theorem Registered.step {attempts : List Attempt} {answers : List (Except Fault Answer)}
    (registered : Registered attempts answers board) (fuel : Nat) (attempt : Attempt) :
    ∃ answer next, board.handle fuel attempt.request = some (answer, next) ∧
      Registered (attempts ++ [attempt]) (answers ++ [answer]) next := by
  have adds {answer : Except Fault Answer} (answered : attempt.Answered answer) :
      List.Forall₂ Attempt.Answered (attempts ++ [attempt]) (answers ++ [answer]) :=
    List.rel_append registered.answered (.cons answered .nil)
  by_cases valid : attempt.hook.Valid
  · obtain ⟨hooks, made, handled⟩ := handle_valid valid fuel board
    have answered : attempt.Answered (.ok .registered) := by rw [Attempt.Answered, if_pos valid]
    refine ⟨_, _, handled, adds answered, fun event => ?_, ?_, ?_⟩
    · have handlers := HookRegistry.handlers_of_register made event
      rw [List.filterMap_append, List.filterMap_cons, handlers]
      cases attempt.hook.registration? attempt.extension event with
      | none => simpa using registered.handlers event
      | some new => exact (registered.handlers event).insert new
    · rw [HookRegistry.entries_of_register made, registered.rules, List.filterMap_append,
        List.filterMap_cons]
      cases attempt.hook.entry? attempt.extension <;> rfl
    · exact fun rule _ => rule.every_pos
  · obtain ⟨failure, name, handled⟩ := handle_refused valid fuel board
    have answered : attempt.Answered (.error (.failure failure)) := by
      rw [Attempt.Answered, if_neg valid]
      exact ⟨failure, rfl, name⟩
    refine ⟨_, _, handled, adds answered, fun event => ?_, ?_, registered.periods⟩
    · rw [List.filterMap_append, List.filterMap_cons,
        HookRegistry.registration?_of_refused valid]
      simpa using registered.handlers event
    · rw [registered.rules, List.filterMap_append, List.filterMap_cons,
        HookRegistry.entry?_of_refused valid]
      simp

theorem exists_registered (fuel : Nat) (attempts : List Attempt) :
    ∃ answers board, ({} : Switchboard).serve fuel (attempts.map Attempt.request) =
      some (answers, board) ∧ Registered attempts answers board := by
  induction attempts using List.reverseRecOn with
  | nil =>
    refine ⟨[], {}, rfl, .nil, fun event => ?_, rfl, nofun⟩
    cases event <;> exact HookRegistry.sorts_nil
  | append_singleton attempts attempt ih =>
    obtain ⟨answers, board, served, registered⟩ := ih
    obtain ⟨answer, next, handled, more⟩ := registered.step fuel attempt
    refine ⟨_, next, ?_, more⟩
    rw [List.map_append]
    exact serve_snoc served handled

/-- What registrations that are made from the beginning come to, with what could have been asked
instead and what can be asked afterwards. -/
structure Settled (fuel : Nat) (attempts : List Attempt) (answers : List (Except Fault Answer))
    (board : Switchboard) : Prop extends Registered attempts answers board where
  served : ({} : Switchboard).serve fuel (attempts.map Attempt.request) = some (answers, board)
  sorted : ∀ event, board.services.hooks.handlers event =
    (attempts.filterMap fun attempt =>
      attempt.hook.registration? attempt.extension event).mergeSort HookRegistry.precedes
  outside : ∀ name, name ∉ Event.all.map Event.name →
    board.handle fuel (.hasHandlers name) = some (.ok (.truth false), board) ∧
      ∀ arguments, board.handle fuel (.emit name arguments) = some (.ok .done, board)
  styles : ∀ others, List.Forall₂ Attempt.Alike attempts others →
    ({} : Switchboard).serve fuel (others.map Attempt.request) = some (answers, board)
  refusals : ∀ attempt : Attempt, ¬ attempt.hook.Valid → ∃ failure : Failure,
    failure.name = "BFExtensionError" ∧
      ({} : Switchboard).serve fuel ((attempts ++ [attempt]).map Attempt.request) =
        some (answers ++ [.error (.failure failure)], board)

/-- Whatever registrations extensions ask for, those that can be made are made, and the others are
refused and change nothing. The handlers of each event are the stable sort of the registrations made
for it, the step rules are in their order, and nothing can be registered for another event. It does not
matter which registrations are written as decorations. -/
theorem serve_registrations (fuel : Nat) (attempts : List Attempt) :
    ∃ answers board, Settled fuel attempts answers board := by
  obtain ⟨answers, board, served, registered⟩ := exists_registered fuel attempts
  refine ⟨answers, board, ⟨registered, served, ?_, ?_, ?_, ?_⟩⟩
  · exact fun event => (registered.handlers event).eq_mergeSort
  · intro name outside
    have unnamed := Event.ofName?_eq_none.mpr outside
    refine ⟨?_, fun arguments => ?_⟩
    · simp only [handle, unnamed, Option.any_none]
    · simp only [handle, unnamed]
  · intro others alike
    rw [serve_alike alike, served]
  · intro attempt refused
    obtain ⟨failure, name, handled⟩ := handle_refused refused fuel board
    refine ⟨failure, name, ?_⟩
    rw [List.map_append]
    exact serve_snoc served handled

/-- Registrations of two extensions, two of which are refused. -/
def mixed : List Attempt :=
  [⟨"early", .event "low" "program_end" 1 .direct []⟩,
    ⟨"late", .event "lost" "after_everything" 9 .decorator []⟩,
    ⟨"late", .event "high" "program_end" 5 .decorator []⟩,
    ⟨"late", .rule "never" "" 0 .direct []⟩,
    ⟨"late", .event "equal" "program_end" 1 .direct []⟩,
    ⟨"early", .rule "often" "" 2 .decorator []⟩]

theorem serve_registrations_mixed : ∃ answers board, Settled 0 mixed answers board ∧
    (board.services.hooks.handlers .programEnd).map (·.handler.id) = ["high", "low", "equal"] ∧
    board.services.hooks.rules.map (·.every) = [2] ∧
    (mixed.filterMap fun attempt => attempt.hook.registration? attempt.extension .programEnd).map
      (·.handler.id) = ["low", "high", "equal"] := by
  obtain ⟨answers, board, settled⟩ := serve_registrations 0 mixed
  obtain rfl : _ = board := congrArg Prod.snd (Option.some.inj settled.served)
  exact ⟨answers, _, settled, rfl, rfl, rfl⟩

end Switchboard

end TapeLang
