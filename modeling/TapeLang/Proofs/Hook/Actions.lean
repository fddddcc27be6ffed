import TapeLang.Hook.Registry

/-! The actions that hooks can come to take.

A hook declares its own actions and those of every hook that it registers. Counting calls changes
nothing about them, and a registration adds only what the new hook declares. -/

set_option autoImplicit false

namespace TapeLang

def Hook.tasks : Hook → List Task
  | .event _ _ _ _ tasks => tasks
  | .rule _ _ _ _ tasks => tasks

/-- Whether tasks take an action, or register a hook of which the tasks do. -/
inductive Action.In : Action → List Task → Prop where
  | head {action : Action} {atCall : Option Int} {rest : List Task} :
      Action.In action (.mk atCall action :: rest)
  | registered {action : Action} {atCall : Option Int} {hook : Hook} {rest : List Task} :
      Action.In action hook.tasks → Action.In action (.mk atCall (.register hook) :: rest)
  | tail {action : Action} {task : Task} {rest : List Task} :
      Action.In action rest → Action.In action (task :: rest)

@[simp] theorem Action.not_in_nil {action : Action} : ¬ action.In [] := nofun

@[simp] theorem Action.in_cons {action first : Action} {atCall : Option Int} {rest : List Task} :
    action.In (.mk atCall first :: rest) ↔
      action = first ∨ (∃ hook, first = .register hook ∧ action.In hook.tasks) ∨ action.In rest := by
  constructor
  · intro inside
    cases inside with
    | head => exact .inl rfl
    | registered inner => exact .inr (.inl ⟨_, rfl, inner⟩)
    | tail inside => exact .inr (.inr inside)
  · rintro (rfl | ⟨hook, rfl, inner⟩ | inside)
    · exact .head
    · exact .registered inner
    · exact .tail inside

theorem Action.In.trans {action : Action} {hook : Hook} {tasks : List Task}
    (inner : action.In hook.tasks) (outer : (Action.register hook).In tasks) : action.In tasks := by
  induction outer with
  | head => exact .registered inner
  | registered _ ih => exact .registered ih
  | tail _ ih => exact .tail ih

namespace HookRegistry

variable {registry other : HookRegistry} {action : Action}

def Declares (registry : HookRegistry) (action : Action) : Prop :=
  (∃ event, ∃ registration ∈ registry.handlers event, action.In registration.handler.tasks) ∨
    ∃ rule ∈ registry.rules, action.In rule.handler.tasks

theorem declares_iff : registry.Declares action ↔
    (∃ registration ∈ registry.programStart, action.In registration.handler.tasks) ∨
    (∃ registration ∈ registry.beforeStep, action.In registration.handler.tasks) ∨
    (∃ registration ∈ registry.programEnd, action.In registration.handler.tasks) ∨
    (∃ registration ∈ registry.onError, action.In registration.handler.tasks) ∨
    ∃ rule ∈ registry.rules, action.In rule.handler.tasks := by
  constructor
  · rintro (⟨_ | _ | _ | _, found⟩ | found)
    · exact .inl found
    · exact .inr (.inl found)
    · exact .inr (.inr (.inl found))
    · exact .inr (.inr (.inr (.inl found)))
    · exact .inr (.inr (.inr (.inr found)))
  · rintro (found | found | found | found | found)
    · exact .inl ⟨.programStart, found⟩
    · exact .inl ⟨.beforeStep, found⟩
    · exact .inl ⟨.programEnd, found⟩
    · exact .inl ⟨.onError, found⟩
    · exact .inr found

theorem Declares.of_registered {hook : Hook} (declares : registry.Declares (.register hook))
    (inner : action.In hook.tasks) : registry.Declares action := by
  rcases declares with ⟨event, registration, member, outer⟩ | ⟨rule, member, outer⟩
  · exact .inl ⟨event, registration, member, inner.trans outer⟩
  · exact .inr ⟨rule, member, inner.trans outer⟩

@[simp] theorem handlers_setHandlers (registry : HookRegistry) (event : Event)
    (handlers : List Registration) : (registry.setHandlers event handlers).handlers event = handlers := by
  cases event <;> rfl

theorem handlers_setHandlers_of_ne {event another : Event} (distinct : another ≠ event)
    (handlers : List Registration) :
    (registry.setHandlers event handlers).handlers another = registry.handlers another := by
  cases event <;> cases another <;> first | rfl | exact absurd rfl distinct

@[simp] theorem rules_setHandlers (registry : HookRegistry) (event : Event)
    (handlers : List Registration) : (registry.setHandlers event handlers).rules = registry.rules := by
  cases event <;> rfl

/-! ## Registration -/

theorem mem_insert {registration new : Registration} {handlers : List Registration}
    (member : registration ∈ insert new handlers) : registration = new ∨ registration ∈ handlers := by
  induction handlers with
  | nil => exact .inl (List.mem_singleton.mp member)
  | cons first rest ih =>
    simp only [insert] at member
    split at member
    · simp only [List.mem_cons] at member ⊢
      rcases member with rfl | member
      · exact .inr (.inl rfl)
      · exact (ih member).imp_right .inr
    · exact List.mem_cons.mp member

theorem declares_of_onEvent {name : String} {priority : Int} {extension : String}
    {handler : Handler} (entered : registry.onEvent name priority extension handler = .ok other)
    (declares : other.Declares action) : registry.Declares action ∨ action.In handler.tasks := by
  unfold onEvent at entered
  split at entered
  · cases entered
  · rename_i event _
    cases entered
    rcases declares with ⟨another, registration, member, inside⟩ | ⟨rule, member, inside⟩
    · by_cases same : another = event
      · subst same
        rw [handlers_setHandlers] at member
        rcases mem_insert member with rfl | member
        · exact .inr inside
        · exact .inl (.inl ⟨another, registration, member, inside⟩)
      · rw [handlers_setHandlers_of_ne same] at member
        exact .inl (.inl ⟨another, registration, member, inside⟩)
    · rw [rules_setHandlers] at member
      exact .inl (.inr ⟨rule, member, inside⟩)

theorem declares_of_everySteps {name : String} {every : Int} {extension : String}
    {handler : Handler} (entered : registry.everySteps name every extension handler = .ok other)
    (declares : other.Declares action) : registry.Declares action ∨ action.In handler.tasks := by
  unfold everySteps at entered
  split at entered
  · cases entered
    rcases declares with ⟨event, registration, member, inside⟩ | ⟨rule, member, inside⟩
    · exact .inl (.inl ⟨event, registration, by cases event <;> exact member, inside⟩)
    · rcases List.mem_append.mp member with member | member
      · exact .inl (.inr ⟨rule, member, inside⟩)
      · rw [List.mem_singleton.mp member] at inside
        exact .inr inside
  · cases entered

-- Both styles of registration enter the handler in the same way.
theorem enterIn_eq (style : Style) (enter : Handler → Except Failure HookRegistry)
    (handler : Handler) : enterIn style enter handler = enter handler := by
  cases style <;> rfl

/-- A registration adds what the new hook declares. -/
theorem declares_of_register {extension : String} {hook : Hook}
    (registered : registry.register extension hook = .ok other) (declares : other.Declares action) :
    registry.Declares action ∨ action.In hook.tasks := by
  cases hook with
  | event id name priority style tasks =>
    simp only [register, enterIn_eq] at registered
    exact declares_of_onEvent registered declares
  | rule id name every style tasks =>
    simp only [register, enterIn_eq] at registered
    exact declares_of_everySteps registered declares

/-! ## Counting -/

/-- The same hooks, but for how often they have been called. -/
structure Recounted (registry other : HookRegistry) : Prop where
  handlers : ∀ event, (other.handlers event).map (·.handler.tasks) =
    (registry.handlers event).map (·.handler.tasks)
  rules : other.rules.map (·.handler.tasks) = registry.rules.map (·.handler.tasks)

theorem Recounted.declares (same : registry.Recounted other) (declares : other.Declares action) :
    registry.Declares action := by
  rcases declares with ⟨event, registration, member, inside⟩ | ⟨rule, member, inside⟩
  · have listed : registration.handler.tasks ∈ (registry.handlers event).map (·.handler.tasks) := by
      rw [← same.handlers event]
      exact List.mem_map_of_mem member
    obtain ⟨before, found, tasks⟩ := List.mem_map.mp listed
    exact .inl ⟨event, before, found, by rwa [tasks]⟩
  · have listed : rule.handler.tasks ∈ registry.rules.map (·.handler.tasks) := by
      rw [← same.rules]
      exact List.mem_map_of_mem member
    obtain ⟨before, found, tasks⟩ := List.mem_map.mp listed
    exact .inr ⟨before, found, by rwa [tasks]⟩

theorem Recounted.length_handlers (same : registry.Recounted other) (event : Event) :
    (other.handlers event).length = (registry.handlers event).length := by
  simpa using congrArg List.length (same.handlers event)

theorem Recounted.length_rules (same : registry.Recounted other) :
    other.rules.length = registry.rules.length := by
  simpa using congrArg List.length same.rules

theorem map_set_same {α β : Type} {view : α → β} {items : List α} {i : Nat} {item new : α}
    (found : items[i]? = some item) (same : view new = view item) :
    (items.set i new).map view = items.map view := by
  obtain ⟨inside, rfl⟩ := List.getElem?_eq_some_iff.mp found
  have bound : i < (items.map view).length := by simpa using inside
  have here : (items.map view)[i] = view new := by rw [List.getElem_map, same]
  rw [List.map_set, ← here, List.set_getElem_self]

theorem recounted_set_handlers {event : Event} {i : Nat} {registration new : Registration}
    (found : (registry.handlers event)[i]? = some registration)
    (same : new.handler.tasks = registration.handler.tasks) :
    registry.Recounted (registry.setHandlers event ((registry.handlers event).set i new)) where
  handlers another := by
    by_cases this : another = event
    · subst this
      rw [handlers_setHandlers]
      exact map_set_same found same
    · rw [handlers_setHandlers_of_ne this]
  rules := by rw [rules_setHandlers]

theorem recounted_set_rules {i : Nat} {rule new : StepRule}
    (found : registry.rules[i]? = some rule) (same : new.handler.tasks = rule.handler.tasks) :
    registry.Recounted { registry with rules := registry.rules.set i new } where
  handlers event := by cases event <;> rfl
  rules := map_set_same found same

end HookRegistry

end TapeLang
