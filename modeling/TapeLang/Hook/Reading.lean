import TapeLang.Hook.Declaration
import TapeLang.Value.Lookup

/-! Reading declarations of hooks. -/

set_option autoImplicit false

namespace TapeLang

/-- The failure that a kind and a message ask for; to ask for no known kind is a failure too. -/
def Failure.ofValue? (v : Value) : Option Failure := do
  let name ← v.memberText? "type"
  match RaisedKind.ofName? name with
  | some kind => pure (.raised kind ((v.memberText? "message").getD ""))
  | none => pure (.unknownName name)

def RunError.ofValue? (v : Value) : Option RunError := do
  let kind ← v.memberText? "kind"
  pure
    { reason := .given kind ((v.memberText? "message").getD "")
      pc := v.memberInt? "pc"
      pointer := v.memberInt? "pointer"
      stepIndex := v.memberInt? "step_index" }

def Assignment.ofValue? (v : Value) : Option Assignment := do
  let value ← v.member? "value"
  match v.memberText? "what" with
  | some "pc" => match value with
    | .int n => some (.pc (some n))
    | .null => some (.pc none)
    | _ => none
  | some "pointer" => value.int?.map .pointer
  | some "cell" => value.int?.map .cell
  | some "verbose" => some (.verbose value.isTrue)
  | _ => none

def Style.ofValue (v : Value) : Style :=
  if v.memberText? "style" = some "decorator" then .decorator else .direct

mutual

def Action.read : Nat → Value → Option Action
  | 0, _ => none
  | bound + 1, v =>
    match v.memberText? "do" with
    | some "log" => some .log
    | some "raise" => (Failure.ofValue? v).map .raise
    | some "raise_bf" => (RunError.ofValue? v).map .raiseRun
    | some "set" => (Assignment.ofValue? v).map .assign
    | some "write" => (v.memberInt? "cell").map .write
    | some "register" => (v.member? "hook").bind fun hook => (Hook.read bound hook).map .register
    | _ => none

/-- Actions that are none do nothing. -/
def Task.readAll : Nat → List Value → Option (List Task)
  | 0, _ => none
  | _ + 1, [] => some []
  | bound + 1, v :: rest => do
    let tasks ← Task.readAll bound rest
    match Action.read bound v with
    | some action => pure (.mk (v.memberInt? "at_call") action :: tasks)
    | none => pure tasks

def Hook.read : Nat → Value → Option Hook
  | 0, _ => none
  | bound + 1, v => do
    let id ← v.memberText? "id"
    let tasks ← match v.member? "actions" with
      | some (.list items) => Task.readAll bound items
      | _ => some [.mk none .log]
    let style := Style.ofValue v
    match v.memberText? "event", v.memberInt? "every_n" with
    | some event, _ => pure (.event id event ((v.memberInt? "priority").getD 0) style tasks)
    | none, some every => pure (.rule id ((v.memberText? "name").getD "") every style tasks)
    | none, none => none

end

def Hook.ofValue? (v : Value) : Option Hook := Hook.read (v.weight + 1) v

end TapeLang
