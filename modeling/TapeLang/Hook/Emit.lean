import TapeLang.Hook.Registry
import TapeLang.Outcome

/-! Calling handlers.

The handlers of an event are walked by position in the list as it is at each moment, so a
registration made on the way changes what is called next. The walk is bounded because handlers that
keep registering handlers need not come to an end. -/

set_option autoImplicit false

namespace TapeLang

/-- What handlers act on: a state with a registry of hooks, a journal, and perhaps a machine. -/
class HookHost (σ : Type) where
  hooks : σ → HookRegistry
  setHooks : σ → HookRegistry → σ
  /-- Writes a journal entry for the handler of a name. -/
  record : σ → String → List Argument → σ
  assign : σ → Assignment → Outcome Failure σ
  write : σ → Int → Outcome Failure σ
  /-- Prints a trace line about what the arguments tell. -/
  trace : σ → TraceLine → List Argument → Outcome Failure σ

namespace HookHost

variable {σ : Type} [HookHost σ]

def stop (outcome : Outcome Failure σ) : Outcome Fault σ :=
  match outcome with
  | .done s => .done s
  | .stopped failure s => .stopped (.ofFailure failure) s
  | .exhausted => .exhausted

def perform (extension id : String) (arguments : List Argument) (s : σ) :
    Action → Outcome Fault σ
  | .log => .done (record s id arguments)
  | .raise failure => .stopped (.ofFailure failure) s
  | .raiseRun error => .stopped (.run error) s
  | .assign assignment => stop (assign s assignment)
  | .write cell => stop (write s cell)
  | .register hook =>
    match (hooks s).register extension hook with
    | .ok registry => .done (setHooks s registry)
    | .error failure => .stopped (.failure failure) s
  | .trace line => stop (trace s line arguments)

def performAll (extension id : String) (arguments : List Argument) (call : Nat) (s : σ) :
    List Task → Outcome Fault σ
  | [] => .done s
  | .mk atCall action :: rest =>
    if atCall.all (· = (call : Int)) then
      (perform extension id arguments s action).next fun s =>
        performAll extension id arguments call s rest
    else performAll extension id arguments call s rest

def call (extension : String) (handler : Handler) (arguments : List Argument) (s : σ) :
    Outcome Fault σ :=
  performAll extension handler.id arguments handler.calls s handler.tasks

def Registration.counted (registration : Registration) : Registration :=
  { registration with
    handler := { registration.handler with calls := registration.handler.calls + 1 } }

def StepRule.counted (rule : StepRule) : StepRule :=
  { rule with handler := { rule.handler with calls := rule.handler.calls + 1 } }

def countHandler (s : σ) (event : Event) (i : Nat) (registration : Registration) : σ :=
  setHooks s ((hooks s).setHandlers event
    (((hooks s).handlers event).set i (Registration.counted registration)))

def countRule (s : σ) (i : Nat) (rule : StepRule) : σ :=
  setHooks s { hooks s with rules := (hooks s).rules.set i (StepRule.counted rule) }

def emitFrom (event : Event) (arguments : List Argument) : Nat → Nat → σ → Outcome Fault σ
  | 0, _, _ => .exhausted
  | fuel + 1, i, s =>
    match ((hooks s).handlers event)[i]? with
    | none => .done s
    | some registration =>
      (call registration.extension (Registration.counted registration).handler arguments
        (countHandler s event i registration)).next (emitFrom event arguments fuel (i + 1))

def emit (fuel : Nat) (event : Event) (arguments : List Argument) (s : σ) : Outcome Fault σ :=
  emitFrom event arguments fuel 0 s

def afterStepFrom (context : StepContext) : Nat → Nat → σ → Outcome Fault σ
  | 0, _, _ => .exhausted
  | fuel + 1, i, s =>
    match (hooks s).rules[i]? with
    | none => .done s
    | some rule =>
      if context.stepIndex % rule.every = 0 then
        (call rule.extension (StepRule.counted rule).handler [.step context]
          (countRule s i rule)).next (afterStepFrom context fuel (i + 1))
      else afterStepFrom context fuel (i + 1) s

def afterStep (fuel : Nat) (context : StepContext) (s : σ) : Outcome Fault σ :=
  afterStepFrom context fuel 0 s

end HookHost

end TapeLang
