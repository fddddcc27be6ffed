import TapeLang.Fault

/-! Hooks as they are declared: what to listen to, and what to do then. -/

set_option autoImplicit false

namespace TapeLang

inductive Assignment where
  | pc (value : Option Int)
  | pointer (value : Int)
  /-- The cell at the pointer. -/
  | cell (value : Int)
  | verbose (value : Bool)
  deriving DecidableEq, Repr

inductive TraceLine where
  | step
  | finished
  | failed
  deriving DecidableEq, Repr

/-- The two ways to write a registration: with the handler at hand, or as a decoration that waits
for it. -/
inductive Style where
  | direct
  | decorator
  deriving DecidableEq, Repr

mutual

inductive Action where
  /-- Writes an entry into the journal. -/
  | log
  | raise (failure : Failure)
  | raiseRun (error : RunError)
  | assign (assignment : Assignment)
  /-- Sends a cell to the machine's writer. -/
  | write (cell : Int)
  /-- Registers another hook for the same extension. -/
  | register (hook : Hook)
  | trace (line : TraceLine)

/-- An action, at every call of its handler or at one of them, counted from one. -/
inductive Task where
  | mk (atCall : Option Int) (action : Action)

inductive Hook where
  | event (id : String) (name : String) (priority : Int) (style : Style) (tasks : List Task)
  /-- A step rule, for every step whose index is a multiple of `every`. -/
  | rule (id : String) (name : String) (every : Int) (style : Style) (tasks : List Task)

end

structure Handler where
  id : String
  tasks : List Task
  calls : Nat := 0

structure StepContext where
  stepIndex : Int
  pc : Int
  op : Opcode
  pointer : Int
  location : Option SourceLocation := none

inductive Argument where
  | program (size : Nat)
  | instruction (inst : Instruction)
  | step (context : StepContext)
  | error (error : RunError)
  | value (value : Value)

structure View where
  pc : Option Int
  pointer : Int
  /-- Nothing if the pointer is off the tape. -/
  cell : Option UInt8
  stepCount : Nat

structure JournalEntry where
  handler : String
  view : Option View
  arguments : List Argument

end TapeLang
