import TapeLang.Code.Program
import TapeLang.Failure
import TapeLang.Log.Recent
import TapeLang.Tape

/-! The log of a run: its most recent steps, and how many there have been. -/

set_option autoImplicit false

namespace TapeLang

/-- A step as it was about to be taken. -/
structure LogEntry where
  stepIndex : Nat
  pc : Int
  op : Opcode
  pointer : Int
  cell : Int
  location : Option SourceLocation := none
  window : Option Tape.Window := none
  deriving DecidableEq, Repr

structure StepLog where
  verbose : Bool
  entries : Recent LogEntry
  stepCount : Nat := 0

namespace StepLog

def defaultHistory : Int := 16

/-- A log keeps a number of steps, or all of them if none is given. -/
def capacity (history : Option Int) : Except Failure (Option Nat) :=
  match history with
  | none => .ok none
  | some n =>
    if 0 ≤ n && Failure.fitsWord n then .ok (some n.toNat) else .error (.historySize n)

def empty (verbose : Bool) (capacity : Option Nat) : StepLog :=
  { verbose, entries := { capacity, count_eq := rfl } }

def record (log : StepLog) (entry : LogEntry) : StepLog :=
  match log with
  | ⟨verbose, entries, stepCount⟩ => ⟨verbose, entries.push entry, stepCount + 1⟩

def last? (log : StepLog) : Option LogEntry := log.entries.last?

end StepLog

end TapeLang
