import TapeLang.Hook.Emit
import TapeLang.Log.Steps
import TapeLang.Channel.Reader
import TapeLang.Channel.Writer
import TapeLang.Trace.Summary

/-! Machines: a program, its reader and writer, its settings, and the state of its run.

A machine is the host of its hooks, which may look at it, assign its parts and use its writer. -/

set_option autoImplicit false

namespace TapeLang

structure Machine (ρ ω : Type) where
  program : Program
  reader : ρ
  writer : ω
  verbose : Bool := false
  /-- How many steps the log of the next run keeps; nothing means all of them. -/
  history : Option Int := some StepLog.defaultHistory
  hooks : HookRegistry := {}
  tape : Tape := Tape.blank
  pointer : Int := 0
  /-- Nothing after a jump without a target. -/
  pc : Option Int := some 0
  log : StepLog := StepLog.empty false none
  journal : Array JournalEntry := #[]
  /-- Lines printed beside the program's output. -/
  diagnostics : Array String := #[]

namespace Machine

variable {ρ ω : Type}

def rewind (m : Machine ρ ω) : Machine ρ ω :=
  { m with tape := Tape.blank, pointer := 0, pc := some 0 }

/-- Starts over with an empty log, if the machine's history is a possible one. -/
def reset (m : Machine ρ ω) : Except Failure (Machine ρ ω) :=
  match StepLog.capacity m.history with
  | .ok capacity => .ok { m.rewind with log := StepLog.empty m.verbose capacity }
  | .error failure => .error failure

def create (program : Program) (reader : ρ) (writer : ω) (verbose : Bool := false)
    (hooks : HookRegistry := {}) (history : Option Int := some StepLog.defaultHistory) :
    Except Failure (Machine ρ ω) :=
  reset { program, reader, writer, verbose, history, hooks }

def cell? (m : Machine ρ ω) : Option UInt8 := m.tape.get? m.pointer

def view (m : Machine ρ ω) : View := ⟨m.pc, m.pointer, m.cell?, m.log.stepCount⟩

def here (m : Machine ρ ω) : Option SourceLocation := m.pc.bind m.program.locate

def errorHere (m : Machine ρ ω) (reason : Reason) : RunError :=
  { reason, location := m.here, pc := m.pc, pointer := some m.pointer }

/-- The fault of a run that cannot go on here: the error, unless it has no wording or there is no
counter to tell its place by. -/
def refuse (m : Machine ρ ω) (reason : Reason) : Fault :=
  match Fault.ofError (m.errorHere reason), m.pc with
  | .run _, none => .failure .noCounter
  | fault, _ => fault

def finished (m : Machine ρ ω) : Except Failure Bool :=
  match m.pc with
  | some pc => .ok ((m.program.size : Int) ≤ pc)
  | none => .error .noCounter

def windowRadius : Int := 8

def window (m : Machine ρ ω) (radius : Int := windowRadius) : Tape.Window :=
  m.tape.window m.pointer radius

def storeCell (m : Machine ρ ω) (value : Int) : Outcome Failure (Machine ρ ω) :=
  match Tape.position? m.pointer with
  | none => .stopped (.tapeIndex m.pointer) m
  | some k =>
    if 0 ≤ value && value < 256 then
      .done { m with tape := m.tape.put k (UInt8.ofNat value.toNat) }
    else .stopped (.cellValue value) m

def assign (m : Machine ρ ω) : Assignment → Outcome Failure (Machine ρ ω)
  | .pc value => .done { m with pc := value }
  | .pointer value => .done { m with pointer := value }
  | .verbose value => .done { m with verbose := value }
  | .cell value => m.storeCell value

def record (m : Machine ρ ω) (id : String) (arguments : List Argument) : Machine ρ ω :=
  let entry : JournalEntry := ⟨id, some m.view, arguments⟩
  { m with journal := m.journal.push entry }

def print (m : Machine ρ ω) (line : String) : Machine ρ ω :=
  { m with diagnostics := m.diagnostics.push line }

def traceEnd (m : Machine ρ ω) : String :=
  s!"after {m.log.stepCount} step(s); " ++ Trace.summary m.tape.cells.toList

/-- Prints a trace line; the line of a step shows the cell after it. -/
def trace (m : Machine ρ ω) (line : TraceLine) (arguments : List Argument) :
    Outcome Failure (Machine ρ ω) :=
  match line, arguments with
  | .step, .step context :: _ =>
    match m.cell? with
    | none => .stopped (.tapeIndex m.pointer) m
    | some cell => .done (m.print
        (s!"[trace] step={context.stepIndex} pc={context.pc} op={context.op.name} " ++
          s!"ptr={context.pointer} cell={cell.toNat}"))
  | .finished, _ => .done (m.print (s!"[trace] finished " ++ m.traceEnd))
  | .failed, .error error :: _ => .done (m.print (s!"[trace] {error.kind} " ++ m.traceEnd))
  | _, _ => .done m

/-- Writes a cell, and keeps what the writer has become. The machine is taken apart so that it does
not hold on to the writer as it was. -/
def send [Writer ω] (m : Machine ρ ω) (cell : Int) : Except Failure Unit × Machine ρ ω :=
  match m with
  | ⟨program, reader, writer, verbose, history, hooks, tape, pointer, pc, log, journal, lines⟩ =>
    let (answer, writer) := Writer.write writer cell
    (answer,
      ⟨program, reader, writer, verbose, history, hooks, tape, pointer, pc, log, journal, lines⟩)

theorem send_eq [Writer ω] (m : Machine ρ ω) (cell : Int) :
    m.send cell =
      ((Writer.write m.writer cell).1, { m with writer := (Writer.write m.writer cell).2 }) := rfl

def writeCell [Writer ω] (m : Machine ρ ω) (cell : Int) : Outcome Failure (Machine ρ ω) :=
  match m.send cell with
  | (.ok (), m) => .done m
  | (.error failure, m) => .stopped failure m

instance [Writer ω] : HookHost (Machine ρ ω) where
  hooks m := m.hooks
  setHooks m hooks := { m with hooks }
  record := record
  assign := assign
  write := writeCell
  trace := trace

end Machine

end TapeLang
