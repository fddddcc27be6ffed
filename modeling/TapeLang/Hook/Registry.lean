import TapeLang.Hook.Declaration

/-! The registry of hooks: handlers of each event in the order in which they are called, and step
rules in the order in which they were registered. -/

set_option autoImplicit false

namespace TapeLang

structure Registration where
  priority : Int
  extension : String
  handler : Handler

structure StepRule where
  every : Nat
  every_pos : 0 < every
  name : String
  extension : String
  handler : Handler

structure HookRegistry where
  programStart : List Registration := []
  beforeStep : List Registration := []
  programEnd : List Registration := []
  onError : List Registration := []
  rules : List StepRule := []

namespace HookRegistry

def handlers (registry : HookRegistry) : Event → List Registration
  | .programStart => registry.programStart
  | .beforeStep => registry.beforeStep
  | .programEnd => registry.programEnd
  | .onError => registry.onError

def setHandlers (registry : HookRegistry) (event : Event) (handlers : List Registration) :
    HookRegistry :=
  match event with
  | .programStart => { registry with programStart := handlers }
  | .beforeStep => { registry with beforeStep := handlers }
  | .programEnd => { registry with programEnd := handlers }
  | .onError => { registry with onError := handlers }

def hasHandlers (registry : HookRegistry) (event : Event) : Bool :=
  !(registry.handlers event).isEmpty

def hasRules (registry : HookRegistry) : Bool := !registry.rules.isEmpty

/-- Puts a registration after all of the same or a higher priority. -/
def insert (registration : Registration) : List Registration → List Registration
  | [] => [registration]
  | first :: rest =>
    if registration.priority ≤ first.priority then first :: insert registration rest
    else registration :: first :: rest

def onEvent (registry : HookRegistry) (name : String) (priority : Int) (extension : String)
    (handler : Handler) : Except Failure HookRegistry :=
  match Event.ofName? name with
  | none => .error (.unknownEvent name)
  | some event =>
    .ok (registry.setHandlers event
      (insert ⟨priority, extension, handler⟩ (registry.handlers event)))

def everySteps (registry : HookRegistry) (name : String) (every : Int) (extension : String)
    (handler : Handler) : Except Failure HookRegistry :=
  if h : 0 < every.toNat then
    .ok { registry with rules := registry.rules ++ [⟨every.toNat, h, name, extension, handler⟩] }
  else .error .badPeriod

/-- A registration waits for its handler if it is written as a decoration. -/
inductive Pending where
  | registered (result : Except Failure HookRegistry)
  | awaiting (decorate : Handler → Except Failure HookRegistry)

def begin (enter : Handler → Except Failure HookRegistry) : Option Handler → Pending
  | some handler => .registered (enter handler)
  | none => .awaiting enter

def Pending.complete (handler : Handler) : Pending → Except Failure HookRegistry
  | registered result => result
  | awaiting decorate => decorate handler

def enterIn (style : Style) (enter : Handler → Except Failure HookRegistry) (handler : Handler) :
    Except Failure HookRegistry :=
  match style with
  | .direct => (begin enter (some handler)).complete handler
  | .decorator => (begin enter none).complete handler

/-- Registers a hook for an extension; a step rule without a name takes its handler's. -/
def register (registry : HookRegistry) (extension : String) : Hook → Except Failure HookRegistry
  | .event id name priority style tasks =>
    enterIn style (registry.onEvent name priority extension) { id, tasks }
  | .rule id name every style tasks =>
    let name := if name.isEmpty then id else name
    enterIn style (registry.everySteps name every extension) { id, tasks }

end HookRegistry

end TapeLang
