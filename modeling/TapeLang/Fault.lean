import TapeLang.Code.Program
import TapeLang.Failure
import TapeLang.Hook.Event
import TapeLang.Value.Quoted

/-! Errors that stop a run.

`Reason` says why, and the other fields of `RunError` say where. -/

set_option autoImplicit false

namespace TapeLang

inductive Direction where
  | right
  | left
  deriving DecidableEq, Repr

def Direction.name : Direction → String
  | right => "right"
  | left => "left"

inductive Channel where
  | output
  | input
  deriving DecidableEq, Repr

def Channel.name : Channel → String
  | output => "Output"
  | input => "Input"

inductive Reason where
  /-- A move past an end of the tape, from the cell at its end. -/
  | pointerMoved (direction : Direction) (cell : Int)
  | channelFailed (channel : Channel) (cause : Failure)
  /-- The reader answered with something that is no cell. -/
  | badInput (value : Value)
  | hookFailed (event : Event) (cause : Failure)
  | ruleFailed (cause : Failure)
  | internal (cause : Failure)
  /-- Put together by a handler. -/
  | given (kind message : String)

namespace Reason

def kind : Reason → String
  | pointerMoved _ _ => "PointerOutOfBounds"
  | channelFailed _ _ | badInput _ => "IOFailure"
  | hookFailed _ _ | ruleFailed _ => "ExtensionFailure"
  | internal _ => "Internal"
  | given kind _ => kind

/-- The wording of a reason. There is none if something in it cannot be written out. -/
def message : Reason → Except Unwritable String
  | pointerMoved direction cell => do
    let cell ← Decimal.numeral cell
    pure (s!"Pointer moved out of range: cannot move {direction.name} from cell {cell} " ++
      "(tape is [0, 30000))")
  | channelFailed channel cause => do
    let text ← cause.message
    pure s!"{channel.name} port failed: {cause.name}: {text}"
  | badInput value => do
    let text ← value.quoted
    pure s!"Input port produced {text}, expected a cell value in [0, 256)"
  | hookFailed event cause => do
    let text ← cause.message
    pure s!"Extension hook '{event.name}' failed: {text}"
  | ruleFailed cause => do
    let text ← cause.message
    pure s!"Extension step rule failed: {text}"
  | internal cause => do
    let text ← cause.message
    pure s!"Internal interpreter error: {text}"
  | given _ message => .ok message

def cause? : Reason → Option Failure
  | channelFailed _ cause | hookFailed _ cause | ruleFailed cause | internal cause => some cause
  | pointerMoved _ _ | badInput _ | given _ _ => none

/-- The failure that the error is linked to while handlers are told of it: an internal error is
linked to its cause only afterwards. -/
def linkedCause? : Reason → Option Failure
  | internal _ => none
  | reason => reason.cause?

end Reason

structure RunError where
  reason : Reason
  location : Option SourceLocation := none
  pc : Option Int := none
  pointer : Option Int := none
  stepIndex : Option Int := none
  /-- The name of its class, which may be one that a handler has derived. -/
  type : String := "BFRuntimeError"

namespace RunError

def kind (error : RunError) : String := error.reason.kind

/-- What the error says. An error does not come about for a reason without a wording. -/
def message (error : RunError) : String :=
  match error.reason.message with
  | .ok message => message
  | .error _ => ""

def raised (message : String) : RunError := { reason := .given "Custom" message }

end RunError

inductive Fault where
  | run (error : RunError)
  | failure (cause : Failure)

namespace Fault

/-- A failure of the kind of run errors is one. -/
def ofFailure : Failure → Fault
  | .raised .run message => .run (.raised message)
  | cause => .failure cause

def ofError (error : RunError) : Fault :=
  match error.reason.message with
  | .ok _ => .run error
  | .error why => .failure (.unwritable why)

end Fault

end TapeLang
