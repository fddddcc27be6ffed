import Mathlib.Logic.ExistsUnique
import TapeLang.Hook.Services
import TapeLang.Proofs.Hook.Order
import TapeLang.Proofs.Outcome

/-! Rounds of calls while handlers register others.

A round goes through the handlers of an event, or through the step rules that are due, by position in a
list that its own calls may lengthen. No position is left out, and what stood behind a position still
stands behind it after a call, so every handler that was there at the start is called. A handler that is
put in front of the one being called moves that one on, which is then called again; if none is, each is
called once. -/

set_option autoImplicit false

namespace TapeLang

def Task.registers? (call : Nat) : Task → Option Hook
  | .mk atCall (.register hook) => if atCall.all (· = (call : Int)) then some hook else none
  | _ => none

/-- The hooks that a handler registers at the call that has just been counted, in order. -/
def Handler.registers (handler : Handler) : List Hook :=
  handler.tasks.filterMap (Task.registers? handler.calls)

def StepContext.due (context : StepContext) (rule : StepRule) : Bool :=
  context.stepIndex % rule.every = 0

/-- A host of which handlers change the hooks by registering alone. -/
class LawfulHookHost (σ : Type) [HookHost σ] : Prop where
  hooks_setHooks : ∀ (s : σ) registry, HookHost.hooks (HookHost.setHooks s registry) = registry
  hooks_perform : ∀ (s : σ) extension id arguments action, (∀ hook, action ≠ .register hook) →
    (HookHost.perform extension id arguments s action).Ends
      (fun t => HookHost.hooks t = HookHost.hooks s) fun _ _ => True

instance : LawfulHookHost Switchboard where
  hooks_setHooks _ _ := rfl
  hooks_perform board extension id arguments action other := by
    cases action with
    | log => rfl
    | register hook => exact absurd rfl (other hook)
    | raise | raiseRun | assign | write | trace => trivial

namespace HookHost

-- A list that agrees with another one up to a position has the same element there.
theorem drop_of_take_eq {α : Type} {items others : List α} {x : α} {i : Nat}
    (same : others.take (i + 1) = items.take (i + 1)) (found : items[i]? = some x) :
    others.take i = items.take i ∧ others.drop i = x :: others.drop (i + 1) := by
  have shorter := congrArg (List.take i) same
  rw [List.take_take, List.take_take, Nat.min_eq_left (Nat.le_succ i)] at shorter
  have foundToo : others[i]? = some x := by
    rw [← List.getElem?_take_of_succ, same, List.getElem?_take_of_succ, found]
  obtain ⟨inside, rfl⟩ := List.getElem?_eq_some_iff.mp foundToo
  exact ⟨shorter, List.drop_eq_getElem_cons inside⟩

/-- Nothing that the handler registers for the event at this call has a higher priority than its own. -/
def Modest (event : Event) (registration : Registration) : Prop :=
  ∀ hook ∈ (Registration.counted registration).handler.registers,
    ∀ new ∈ hook.registration? registration.extension event, new.priority ≤ registration.priority

instance (event : Event) (registration : Registration) : Decidable (Modest event registration) :=
  inferInstanceAs (Decidable (∀ hook ∈ (Registration.counted registration).handler.registers,
    ∀ new ∈ hook.registration? registration.extension event, new.priority ≤ registration.priority))

variable {σ : Type} [HookHost σ] {event : Event} {arguments : List Argument} {context : StepContext}
  {fuel i : Nat} {s t u : σ}

/-! ## Calls -/

/-- The calls that are made through the handlers of an event from a position on, each of a handler as it
stands there when its turn comes. -/
inductive Calls (event : Event) (arguments : List Argument) :
    Nat → σ → List Registration → σ → Prop where
  | stop {i : Nat} {s : σ} :
      ((hooks s).handlers event)[i]? = none → Calls event arguments i s [] s
  | call {i : Nat} {s t u : σ} {registration : Registration} {rest : List Registration} :
      ((hooks s).handlers event)[i]? = some registration →
      HookHost.call registration.extension (Registration.counted registration).handler arguments
        (countHandler s event i registration) = .done t →
      Calls event arguments (i + 1) t rest u → Calls event arguments i s (registration :: rest) u

inductive RuleCalls (context : StepContext) : Nat → σ → List StepRule → σ → Prop where
  | stop {i : Nat} {s : σ} : (hooks s).rules[i]? = none → RuleCalls context i s [] s
  | skip {i : Nat} {s u : σ} {rule : StepRule} {rest : List StepRule} :
      (hooks s).rules[i]? = some rule → context.due rule = false →
      RuleCalls context (i + 1) s rest u → RuleCalls context i s rest u
  | call {i : Nat} {s t u : σ} {rule : StepRule} {rest : List StepRule} :
      (hooks s).rules[i]? = some rule → context.due rule = true →
      HookHost.call rule.extension (StepRule.counted rule).handler [.step context]
        (countRule s i rule) = .done t →
      RuleCalls context (i + 1) t rest u → RuleCalls context i s (rule :: rest) u

theorem exists_calls (ended : emitFrom event arguments fuel i s = .done u) :
    ∃ called, Calls event arguments i s called u := by
  induction fuel generalizing i s with
  | zero => cases ended
  | succ fuel ih =>
    simp only [emitFrom] at ended
    cases found : ((hooks s).handlers event)[i]? with
    | none =>
      simp only [found] at ended
      cases ended
      exact ⟨[], .stop found⟩
    | some registration =>
      simp only [found] at ended
      cases made : call registration.extension (Registration.counted registration).handler arguments
        (countHandler s event i registration) with
      | done t =>
        rw [made] at ended
        obtain ⟨rest, calls⟩ := ih ended
        exact ⟨registration :: rest, .call found made calls⟩
      | stopped | exhausted =>
        rw [made] at ended
        cases ended

theorem exists_ruleCalls (ended : afterStepFrom context fuel i s = .done u) :
    ∃ called, RuleCalls context i s called u := by
  induction fuel generalizing i s with
  | zero => cases ended
  | succ fuel ih =>
    simp only [afterStepFrom] at ended
    cases found : (hooks s).rules[i]? with
    | none =>
      simp only [found] at ended
      cases ended
      exact ⟨[], .stop found⟩
    | some rule =>
      simp only [found] at ended
      split at ended
      · cases made : call rule.extension (StepRule.counted rule).handler [.step context]
          (countRule s i rule) with
        | done t =>
          rw [made] at ended
          obtain ⟨rest, calls⟩ := ih ended
          exact ⟨rule :: rest, .call found (decide_eq_true ‹_›) made calls⟩
        | stopped | exhausted =>
          rw [made] at ended
          cases ended
      · obtain ⟨rest, calls⟩ := ih ended
        exact ⟨rest, .skip found (decide_eq_false ‹_›) calls⟩

theorem Calls.unique {called others : List Registration} (calls : Calls event arguments i s called u)
    (again : Calls event arguments i s others t) : others = called := by
  induction calls generalizing others with
  | stop outside =>
    cases again with
    | stop => rfl
    | call found => simp [outside] at found
  | call found made _ ih =>
    cases again with
    | stop outside => simp [outside] at found
    | call foundToo madeToo rest =>
      cases found.symm.trans foundToo
      cases made.symm.trans madeToo
      rw [ih rest]

theorem RuleCalls.unique {called others : List StepRule} (calls : RuleCalls context i s called u)
    (again : RuleCalls context i s others t) : others = called := by
  induction calls generalizing others with
  | stop outside =>
    cases again with
    | stop => rfl
    | skip found | call found => simp [outside] at found
  | skip found late _ ih =>
    cases again with
    | stop outside => simp [outside] at found
    | skip _ _ rest => exact ih rest
    | call foundToo due =>
      cases found.symm.trans foundToo
      cases late.symm.trans due
  | call found due made _ ih =>
    cases again with
    | stop outside => simp [outside] at found
    | skip foundToo late =>
      cases found.symm.trans foundToo
      cases due.symm.trans late
    | call foundToo _ madeToo rest =>
      cases found.symm.trans foundToo
      cases made.symm.trans madeToo
      rw [ih rest]

/-! ## What one call registers -/

section
variable [LawfulHookHost σ] {extension id : String}

theorem registerAll_of_perform {action : Action} {atCall : Option Int} {call : Nat}
    (due : atCall.all (· = (call : Int)))
    (performed : perform extension id arguments s action = .done t) :
    (hooks s).registerAll extension ((Task.mk atCall action).registers? call).toList =
      .ok (hooks t) := by
  have kept (other : ∀ hook, action ≠ .register hook) : hooks t = hooks s := by
    have ends := LawfulHookHost.hooks_perform s extension id arguments action other
    rwa [performed] at ends
  cases action with
  | register hook =>
    simp only [perform] at performed
    cases registered : (hooks s).register extension hook with
    | error failure =>
      rw [registered] at performed
      cases performed
    | ok registry =>
      rw [registered] at performed
      cases performed
      simp only [Task.registers?, due, if_true, Option.toList_some, HookRegistry.registerAll_cons,
        registered, LawfulHookHost.hooks_setHooks]
      rfl
  | log | raise | raiseRun | assign | write | trace =>
    rw [kept nofun]
    rfl

theorem registerAll_of_performAll {call : Nat} {tasks : List Task}
    (performed : performAll extension id arguments call s tasks = .done t) :
    (hooks s).registerAll extension (tasks.filterMap (Task.registers? call)) = .ok (hooks t) := by
  induction tasks generalizing s with
  | nil =>
    cases performed
    rfl
  | cons task rest ih =>
    obtain ⟨atCall, action⟩ := task
    simp only [performAll] at performed
    by_cases due : atCall.all (· = (call : Int))
    · rw [if_pos due] at performed
      cases first : perform extension id arguments s action with
      | done next =>
        rw [first] at performed
        have start := registerAll_of_perform due first
        have parts : (Task.mk atCall action :: rest).filterMap (Task.registers? call) =
            ((Task.mk atCall action).registers? call).toList ++
              rest.filterMap (Task.registers? call) := by
          rw [List.filterMap_cons]
          cases (Task.mk atCall action).registers? call <;> rfl
        rw [parts, HookRegistry.registerAll_append start]
        exact ih performed
      | stopped | exhausted =>
        rw [first] at performed
        cases performed
    · rw [if_neg due] at performed
      have silent : (Task.mk atCall action).registers? call = none := by
        cases action <;> simp [Task.registers?, due]
      rw [List.filterMap_cons_none silent]
      exact ih performed

/-- A call changes the handlers of an event by counting itself, and then by what it registers. -/
theorem grows_of_call {registration : Registration}
    (made : call registration.extension (Registration.counted registration).handler arguments
      (countHandler s event i registration) = .done t) :
    HookRegistry.Grows (fun priority => ∃ hook ∈ (Registration.counted registration).handler.registers,
        ∃ new, hook.registration? registration.extension event = some new ∧ new.priority = priority)
      (((hooks s).handlers event).set i (Registration.counted registration))
      ((hooks t).handlers event) := by
  have registered := registerAll_of_performAll made
  rw [countHandler, LawfulHookHost.hooks_setHooks] at registered
  have grows := HookRegistry.grows_of_registerAll registered event
  rwa [HookRegistry.handlers_setHandlers] at grows

theorem rules_of_call {rule : StepRule}
    (made : call rule.extension (StepRule.counted rule).handler [.step context]
      (countRule s i rule) = .done t) :
    (hooks s).rules.set i (StepRule.counted rule) <+: (hooks t).rules := by
  have registered := registerAll_of_performAll made
  rw [countRule, LawfulHookHost.hooks_setHooks] at registered
  exact HookRegistry.rules_of_registerAll registered

/-! ## Rounds -/

/-- Each position is called once. -/
theorem Calls.length_eq {called : List Registration} (calls : Calls event arguments i s called u)
    (inside : i ≤ ((hooks s).handlers event).length) :
    i + called.length = ((hooks u).handlers event).length := by
  induction calls with
  | stop outside =>
    have := List.getElem?_eq_none_iff.mp outside
    rw [List.length_nil]
    omega
  | call found made _ ih =>
    have listed := (List.getElem?_eq_some_iff.mp found).1
    have longer := (grows_of_call made).length_le
    rw [List.length_set] at longer
    have := ih (by omega)
    rw [List.length_cons]
    omega

/-- What stands at a position or behind it is called, in its order. -/
theorem Calls.sublist {called : List Registration} (calls : Calls event arguments i s called u) :
    (((hooks s).handlers event).drop i).Sublist called := by
  induction calls with
  | stop outside => simp [List.drop_eq_nil_of_le (List.getElem?_eq_none_iff.mp outside)]
  | @call i s t u registration rest found made _ ih =>
    obtain ⟨listed, rfl⟩ := List.getElem?_eq_some_iff.mp found
    have behind := (grows_of_call made).drop_sublist (i + 1)
    rw [List.drop_set_of_lt (Nat.lt_succ_self i)] at behind
    rw [List.drop_eq_getElem_cons listed]
    exact (behind.trans ih).cons_cons _

-- The positions that have been called stay as they are, and the others are called in turn.
theorem Calls.handlers_eq {called : List Registration} (calls : Calls event arguments i s called u)
    (ordered : HookRegistry.Ordered ((hooks s).handlers event))
    (modest : ∀ registration ∈ called, Modest event registration) :
    ((hooks u).handlers event).take i = ((hooks s).handlers event).take i ∧
      ((hooks u).handlers event).drop i = called.map Registration.counted := by
  induction calls with
  | stop outside =>
    exact ⟨rfl, by simp [List.drop_eq_nil_of_le (List.getElem?_eq_none_iff.mp outside)]⟩
  | @call i s t u registration rest found made _ ih =>
    have grows := grows_of_call made
    have counted : (((hooks s).handlers event).set i (Registration.counted registration))[i]? =
        some (Registration.counted registration) := by
      simp [(List.getElem?_eq_some_iff.mp found).1]
    have stillOrdered : HookRegistry.Ordered
        (((hooks s).handlers event).set i (Registration.counted registration)) :=
      ordered.set found rfl
    have here := grows.take_eq stillOrdered counted (by
      rintro _ ⟨hook, member, new, isNew, rfl⟩
      exact modest registration (.head _) hook member new isNew)
    obtain ⟨before, after⟩ := ih (grows.ordered stillOrdered) fun other member =>
      modest other (.tail _ member)
    obtain ⟨start, rest⟩ := drop_of_take_eq (before.trans here) counted
    rw [start, rest, after, List.take_set_of_le (Nat.le_refl i), List.map_cons]
    exact ⟨rfl, rfl⟩

theorem RuleCalls.rules_eq {called : List StepRule} (calls : RuleCalls context i s called u) :
    (hooks u).rules.take i = (hooks s).rules.take i ∧
      ((hooks u).rules.drop i).filter context.due = called.map StepRule.counted := by
  induction calls with
  | stop outside =>
    exact ⟨rfl, by simp [List.drop_eq_nil_of_le (List.getElem?_eq_none_iff.mp outside)]⟩
  | skip found late _ ih =>
    obtain ⟨before, after⟩ := ih
    obtain ⟨start, rest⟩ := drop_of_take_eq before found
    rw [rest, List.filter_cons_of_neg (by simp [late])]
    exact ⟨start, after⟩
  | @call i s t u rule rest found due made _ ih =>
    obtain ⟨before, after⟩ := ih
    have listed := (List.getElem?_eq_some_iff.mp found).1
    have counted : ((hooks s).rules.set i (StepRule.counted rule))[i]? =
        some (StepRule.counted rule) := by
      simp [listed]
    have here : (hooks t).rules.take (i + 1) =
        ((hooks s).rules.set i (StepRule.counted rule)).take (i + 1) := by
      obtain ⟨more, grown⟩ := rules_of_call made
      rw [← grown, List.take_append_of_le_length (by rw [List.length_set]; exact listed)]
    obtain ⟨start, rest⟩ := drop_of_take_eq (before.trans here) counted
    rw [start, rest, List.filter_cons_of_pos (by exact due), after,
      List.take_set_of_le (Nat.le_refl i), List.map_cons]
    exact ⟨rfl, rfl⟩

/-- A round keeps the handlers of every event in order. -/
theorem Calls.ordered {called : List Registration} {other : Event}
    (calls : Calls event arguments i s called u)
    (ordered : HookRegistry.Ordered ((hooks s).handlers other)) :
    HookRegistry.Ordered ((hooks u).handlers other) := by
  induction calls with
  | stop => exact ordered
  | call found made _ ih =>
    refine ih (HookRegistry.ordered_of_registerAll (registerAll_of_performAll made) ?_)
    rw [countHandler, LawfulHookHost.hooks_setHooks]
    by_cases same : other = event
    · subst same
      rw [HookRegistry.handlers_setHandlers]
      exact ordered.set found rfl
    · rw [HookRegistry.handlers_setHandlers_of_ne same]
      exact ordered

theorem RuleCalls.ordered {called : List StepRule} {other : Event}
    (calls : RuleCalls context i s called u)
    (ordered : HookRegistry.Ordered ((hooks s).handlers other)) :
    HookRegistry.Ordered ((hooks u).handlers other) := by
  induction calls with
  | stop => exact ordered
  | skip _ _ _ ih => exact ih ordered
  | call found due made _ ih =>
    refine ih (HookRegistry.ordered_of_registerAll (registerAll_of_performAll made) ?_)
    rw [countRule, LawfulHookHost.hooks_setHooks]
    cases other <;> exact ordered

/-- A round that ends has called as many handlers as there are at its end, and among them, in their
order, all that there were at its start. If no handler is put in front of the one that registers it, the
round has called each of the final handlers once, in their order. A round of step rules has called each
of the final rules once that is due after the step, in their order. -/
theorem rounds_complete (fuel : Nat) (event : Event) (arguments : List Argument)
    (context : StepContext) (s : σ) :
    (∀ t, emit fuel event arguments s = .done t →
      (∃! called, Calls event arguments 0 s called t) ∧
        ∀ called, Calls event arguments 0 s called t →
          called.length = ((hooks t).handlers event).length ∧
          ((hooks s).handlers event).Sublist called ∧
          (HookRegistry.Ordered ((hooks s).handlers event) →
            (∀ registration ∈ called, Modest event registration) →
              (hooks t).handlers event = called.map Registration.counted)) ∧
    ∀ t, afterStep fuel context s = .done t →
      (∃! called, RuleCalls context 0 s called t) ∧
        ∀ called, RuleCalls context 0 s called t →
          (hooks t).rules.filter context.due = called.map StepRule.counted := by
  refine ⟨fun t ended => ⟨?_, fun called calls => ⟨?_, calls.sublist, ?_⟩⟩,
    fun t ended => ⟨?_, fun called calls => calls.rules_eq.2⟩⟩
  · obtain ⟨called, calls⟩ := exists_calls ended
    exact ⟨called, calls, fun _ => calls.unique⟩
  · simpa using calls.length_eq (Nat.zero_le _)
  · exact fun ordered modest => (calls.handlers_eq ordered modest).2
  · obtain ⟨called, calls⟩ := exists_ruleCalls ended
    exact ⟨called, calls, fun _ => calls.unique⟩

end

/-- Two handlers, of which the first registers one of its own priority, and a step rule that registers
another one. -/
def crowded : Switchboard where
  services :=
    { hooks :=
        { programEnd :=
            [⟨5, "t", { id := "first", tasks := [.mk none (.register
                (.event "second" "program_end" 5 .decorator [.mk none .log]))] }⟩,
              ⟨1, "t", { id := "third", tasks := [.mk none .log] }⟩]
          rules :=
            [⟨2, Nat.two_pos, "even", "t", { id := "even", tasks := [.mk none (.register
                (.rule "threefold" "" 3 .direct [.mk none .log]))] }⟩] } }

-- The handler and the rule that are registered on the way are called in the same round.
theorem crowded_complete :
    ∃ ended stepped called due,
      emit 4 .programEnd [] crowded = .done ended ∧
        afterStep 3 ⟨6, 0, .increment, 0, none⟩ crowded = .done stepped ∧
        Calls .programEnd [] 0 crowded called ended ∧
        RuleCalls ⟨6, 0, .increment, 0, none⟩ 0 crowded due stepped ∧
        called.map (·.handler.id) = ["first", "second", "third"] ∧
        called.length = (ended.services.hooks.handlers .programEnd).length ∧
        (crowded.services.hooks.handlers .programEnd).Sublist called ∧
        ended.services.hooks.handlers .programEnd = called.map Registration.counted ∧
        due.map (·.handler.id) = ["even", "threefold"] ∧
        stepped.services.hooks.rules.filter (StepContext.due ⟨6, 0, .increment, 0, none⟩) =
          due.map StepRule.counted := by
  obtain ⟨ended, called, emitted, calls, ids, modest⟩ : ∃ ended called,
      emit 4 .programEnd [] crowded = .done ended ∧ Calls .programEnd [] 0 crowded called ended ∧
        called.map (·.handler.id) = ["first", "second", "third"] ∧
        ∀ registration ∈ called, Modest .programEnd registration := by
    refine ⟨_, _, rfl, .call rfl rfl (.call rfl rfl (.call rfl rfl (.stop rfl))), rfl, ?_⟩
    decide
  obtain ⟨stepped, due, ruled, rules, names⟩ : ∃ stepped due,
      afterStep 3 ⟨6, 0, .increment, 0, none⟩ crowded = .done stepped ∧
        RuleCalls ⟨6, 0, .increment, 0, none⟩ 0 crowded due stepped ∧
        due.map (·.handler.id) = ["even", "threefold"] :=
    ⟨_, _, rfl, .call rfl rfl rfl (.call rfl rfl rfl (.stop rfl)), rfl⟩
  have ordered : HookRegistry.Ordered ((hooks crowded).handlers .programEnd) := by
    decide
  obtain ⟨events, steps⟩ := rounds_complete _ .programEnd [] ⟨6, 0, .increment, 0, none⟩ crowded
  obtain ⟨_, complete⟩ := events ended emitted
  obtain ⟨count, among, once⟩ := complete called calls
  exact ⟨ended, stepped, called, due, emitted, ruled, calls, rules, ids, count, among,
    once ordered modest, names, (steps stepped ruled).2 due rules⟩

end HookHost

end TapeLang
