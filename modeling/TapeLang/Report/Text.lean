import TapeLang.Decimal.Padded
import TapeLang.Fault
import TapeLang.Log.Steps

/-! Reports of an error as text: the kept steps, the oldest first, and the error at the end. -/

set_option autoImplicit false

namespace TapeLang.Report

def symbolOf (op : Opcode) : Char := op.symbol?.getD '?'

def placeLine (entry : LogEntry) : String :=
  let symbol := symbolOf entry.op
  match entry.location with
  | some location =>
    s!"  File \"{location.file}\", line {location.line}, column {location.column}, " ++
      s!"pc {entry.pc}: '{symbol}'"
  | none => s!"  <unknown location>, pc {entry.pc}: '{symbol}'"

def stepLine (entry : LogEntry) : String :=
  s!"    Step: {entry.stepIndex}  ptr={entry.pointer}  cell={entry.cell}"

def windowLine (window : Tape.Window) : String :=
  let cells := window.cells.map fun cell => Decimal.padded 3 cell.toNat
  s!"    Tape @{window.start}: " ++ " ".intercalate cells

def entryLines (verbose : Bool) (entry : LogEntry) : List String :=
  let windows := match verbose, entry.window with
    | true, some window => [windowLine window]
    | _, _ => []
  placeLine entry :: stepLine entry :: windows

def omittedLines (log : StepLog) : List String :=
  if log.entries.size < log.stepCount then
    [s!"  ... {log.stepCount - log.entries.size} earlier step(s) omitted"]
  else []

def pointerText : Option Int → String
  | some pointer => toString pointer
  | none => "None"

def errorLine (error : RunError) : String :=
  let place := match error.pc with
    | some pc => s!"pc {pc}, pointer {pointerText error.pointer}"
    | none => "no step executed"
  s!"{error.kind}: {error.message} ({place})"

def textLines (log : StepLog) (error : RunError) (verbose : Bool) : List String :=
  "Traceback (most recent step last):" :: omittedLines log ++
    log.entries.toList.flatMap (entryLines verbose) ++ [errorLine error]

def text (log : StepLog) (error : RunError) (verbose : Bool) : String :=
  "\n".intercalate (textLines log error verbose)

/-! Numbers that each part of a report shows. -/

def placeNumbers (entry : LogEntry) : List Int :=
  match entry.location with
  | some location => [location.line, location.column, entry.pc]
  | none => [entry.pc]

def entryNumbers (verbose : Bool) (entry : LogEntry) : List Int :=
  let windows : List Int := match verbose, entry.window with
    | true, some window => ↑window.start :: window.cells.map fun cell => ↑cell.toNat
    | _, _ => []
  placeNumbers entry ++ ↑entry.stepIndex :: entry.pointer :: entry.cell :: windows

def omittedNumbers (log : StepLog) : List Int :=
  if log.entries.size < log.stepCount then [↑(log.stepCount - log.entries.size)] else []

def errorNumbers (error : RunError) : List Int :=
  match error.pc with
  | some pc => pc :: error.pointer.toList
  | none => []

def textNumbers (log : StepLog) (error : RunError) (verbose : Bool) : List Int :=
  omittedNumbers log ++ log.entries.toList.flatMap (entryNumbers verbose) ++ errorNumbers error

/-- The report, if every number in it can be written out. -/
def write (log : StepLog) (error : RunError) (verbose : Bool) : Except Failure String :=
  Failure.ofWriting (Decimal.showing (textNumbers log error verbose) (text log error verbose))

end TapeLang.Report
