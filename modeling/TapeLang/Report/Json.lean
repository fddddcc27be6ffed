import TapeLang.Fault
import TapeLang.Json.Printer
import TapeLang.Log.Steps

/-! Reports of an error as JSON documents. -/

set_option autoImplicit false

namespace TapeLang.Report

def number? : Option Int → Value
  | some n => .int n
  | none => .null

def locationMembers : Option SourceLocation → List (String × Value)
  | some location =>
    [("source_location", .object
      [("file", .text location.file), ("line", .int location.line),
        ("column", .int location.column)])]
  | none => []

def windowValue (window : Tape.Window) : Value :=
  .object
    [("start", .int window.start), ("cells", .list (window.cells.map fun c => .int c.toNat))]

def windowMembers : Option Tape.Window → List (String × Value)
  | some window => [("tape_snapshot", windowValue window)]
  | none => []

def entryValue (entry : LogEntry) : Value :=
  .object
    ([("step_index", .int entry.stepIndex), ("pc", .int entry.pc), ("op", .text entry.op.name),
      ("pointer", .int entry.pointer), ("cell", .int entry.cell)] ++
      locationMembers entry.location ++ windowMembers entry.window)

def errorValue (error : RunError) : Value :=
  .object
    [("type", .text error.type), ("kind", .text error.kind), ("message", .text error.message),
      ("pc", number? error.pc), ("pointer", number? error.pointer),
      ("failing_step_index", number? error.stepIndex)]

def jsonValue (log : StepLog) (error : RunError) : Value :=
  .object
    [("error", errorValue error), ("steps", .list (log.entries.toList.map entryValue))]

def json (log : StepLog) (error : RunError) : Except Failure String :=
  Failure.ofWriting (Json.write (jsonValue log error))

end TapeLang.Report
