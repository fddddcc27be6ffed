import TapeLang.Hook.Emit

/-! What extensions provide: their descriptions and their hooks.

Handlers can also be called without a machine. They then see nothing of one, and what they do to it
fails. -/

set_option autoImplicit false

namespace TapeLang

def apiVersion : Int := 1

structure Metadata where
  name : String
  version : String := "0.0.0"
  requiresApi : Int := apiVersion
  deriving DecidableEq, Repr

structure Services where
  metadata : List Metadata := []
  hooks : HookRegistry := {}

namespace Services

def describe (services : Services) (metadata : Metadata) : Services :=
  { services with metadata := services.metadata ++ [metadata] }

def register (services : Services) (extension : String) (hook : Hook) :
    Except Failure Services := do
  let hooks ← services.hooks.register extension hook
  pure { services with hooks }

end Services

structure Switchboard where
  services : Services := {}
  journal : Array JournalEntry := #[]

namespace Switchboard

instance : HookHost Switchboard where
  hooks board := board.services.hooks
  setHooks board hooks := { board with services := { board.services with hooks } }
  record board id arguments := { board with journal := board.journal.push ⟨id, none, arguments⟩ }
  assign board _ := .stopped .noMachine board
  write board _ := .stopped .noMachine board
  trace board _ _ := .stopped .noMachine board

inductive Request where
  | register (extension : String) (hook : Hook)
  | describe (metadata : Metadata)
  | hasHandlers (event : String)
  | hasRules
  | emit (event : String) (arguments : List Value)
  | afterStep (context : StepContext)

inductive Answer where
  | done
  | registered
  | truth (answer : Bool)

def answered (outcome : Outcome Fault Switchboard) : Option (Except Fault Answer × Switchboard) :=
  match outcome with
  | .done board => some (.ok .done, board)
  | .stopped fault board => some (.error fault, board)
  | .exhausted => none

/-- Answers a request; nothing if handlers are called more often than `fuel` allows. -/
def handle (fuel : Nat) (board : Switchboard) :
    Request → Option (Except Fault Answer × Switchboard)
  | .register extension hook =>
    match board.services.register extension hook with
    | .ok services => some (.ok .registered, { board with services })
    | .error failure => some (.error (.failure failure), board)
  | .describe metadata =>
    some (.ok .done, { board with services := board.services.describe metadata })
  | .hasHandlers name =>
    some (.ok (.truth ((Event.ofName? name).any board.services.hooks.hasHandlers)), board)
  | .hasRules => some (.ok (.truth board.services.hooks.hasRules), board)
  | .emit name arguments =>
    match Event.ofName? name with
    | some event => answered (HookHost.emit fuel event (arguments.map .value) board)
    | none => some (.ok .done, board)
  | .afterStep context => answered (HookHost.afterStep fuel context board)

def clear (board : Switchboard) : Switchboard := { board with journal := #[] }

end Switchboard

end TapeLang
