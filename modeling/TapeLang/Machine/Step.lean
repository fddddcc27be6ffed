import TapeLang.Machine.State

/-! One step of a machine: tell handlers, log, take the instruction's effect, run step rules, and go
on to the next instruction. -/

set_option autoImplicit false

namespace TapeLang

structure Gates where
  beforeStep : Bool
  rules : Bool

def HookRegistry.gates (registry : HookRegistry) : Gates :=
  ⟨registry.hasHandlers .beforeStep, registry.hasRules⟩

def Value.cell? : Value → Option UInt8
  | .int n => if 0 ≤ n && n < 256 then some (UInt8.ofNat n.toNat) else none
  | _ => none

namespace Machine

variable {ρ ω : Type}

/-- Calls the handlers of an event. A failure among them becomes an error at the present
instruction. -/
def emitEvent [Writer ω] (fuel : Nat) (event : Event) (arguments : List Argument)
    (m : Machine ρ ω) : Outcome Fault (Machine ρ ω) :=
  match HookHost.emit fuel event arguments m with
  | .stopped (.failure failure) m => .stopped (m.refuse (.hookFailed event failure)) m
  | outcome => outcome

def emitStep [Writer ω] (fuel : Nat) (entry : LogEntry) (m : Machine ρ ω) :
    Outcome Fault (Machine ρ ω) :=
  match HookHost.afterStep fuel
      ⟨entry.stepIndex, entry.pc, entry.op, m.pointer, entry.location⟩ m with
  | .stopped (.failure failure) m =>
    .stopped (.ofError
      { reason := .ruleFailed failure
        location := entry.location
        pc := some entry.pc
        pointer := some m.pointer }) m
  | outcome => outcome

def entryFor (m : Machine ρ ω) (inst : Instruction) : Except Failure LogEntry :=
  match m.cell?, m.pc with
  | none, _ => .error (.tapeIndex m.pointer)
  | some _, none => .error .noCounter
  | some cell, some pc => .ok
      { stepIndex := m.log.stepCount
        pc
        op := inst.op
        pointer := m.pointer
        cell := cell.toNat
        location := m.program.locate pc
        window := if m.verbose then some m.window else none }

def recordStep (m : Machine ρ ω) (entry : LogEntry) : Machine ρ ω :=
  { m with log := m.log.record entry }

def changeCell (m : Machine ρ ω) (change : UInt8 → UInt8) : Outcome Fault (Machine ρ ω) :=
  match Tape.position? m.pointer with
  | none => .stopped (.failure (.tapeIndex m.pointer)) m
  | some k =>
    let cell := change (m.tape.cell k)
    .done { m with tape := m.tape.put k cell }

/-- Moves the pointer by one cell; a move off the tape leaves it where it is. -/
def move (m : Machine ρ ω) (direction : Direction) : Outcome Fault (Machine ρ ω) :=
  let target : Int := match direction with
    | .right => m.pointer + 1
    | .left => m.pointer - 1
  if 0 ≤ target && target < Tape.size then .done { m with pointer := target }
  else .stopped (m.refuse (.pointerMoved direction m.pointer)) m

def jumpIf (m : Machine ρ ω) (test : UInt8 → Bool) (target : Option Int) :
    Outcome Fault (Machine ρ ω) :=
  match m.cell? with
  | none => .stopped (.failure (.tapeIndex m.pointer)) m
  | some cell => if test cell then .done { m with pc := target } else .done m

def output [Writer ω] (m : Machine ρ ω) : Outcome Fault (Machine ρ ω) :=
  match m.cell? with
  | none => .stopped (m.refuse (.channelFailed .output (.tapeIndex m.pointer))) m
  | some cell =>
    match m.send cell.toNat with
    | (.ok (), m) => .done m
    | (.error failure, m) => .stopped (m.refuse (.channelFailed .output failure)) m

def input [Reader ρ] (m : Machine ρ ω) : Outcome Fault (Machine ρ ω) :=
  match Reader.read m.reader with
  | (.error failure, reader) =>
    .stopped (m.refuse (.channelFailed .input failure)) { m with reader }
  | (.ok value, reader) =>
    match value.cell? with
    | none => .stopped (m.refuse (.badInput value)) { m with reader }
    | some cell =>
      match Tape.position? m.pointer with
      | none => .stopped (.failure (.tapeIndex m.pointer)) { m with reader }
      | some k => .done { m with reader, tape := m.tape.put k cell }

def perform [Reader ρ] [Writer ω] (inst : Instruction) (m : Machine ρ ω) :
    Outcome Fault (Machine ρ ω) :=
  match inst.op with
  | .increment => m.changeCell (· + 1)
  | .decrement => m.changeCell (· - 1)
  | .moveRight => m.move .right
  | .moveLeft => m.move .left
  | .jumpIfZero => m.jumpIf (· == 0) inst.target
  | .jumpIfNonZero => m.jumpIf (· != 0) inst.target
  | .output => m.output
  | .input => m.input
  | .other _ => .done m

def advance (m : Machine ρ ω) : Outcome Fault (Machine ρ ω) :=
  match m.pc with
  | some pc => .done { m with pc := some (pc + 1) }
  | none => .stopped (.failure .noCounter) m

def step [Reader ρ] [Writer ω] (fuel : Nat) (gates : Gates) (inst : Instruction)
    (m : Machine ρ ω) : Outcome Fault (Machine ρ ω) :=
  (if gates.beforeStep then m.emitEvent fuel .beforeStep [.instruction inst] else .done m).next
    fun m =>
      match m.entryFor inst with
      | .error failure => .stopped (.failure failure) m
      | .ok entry =>
        ((m.recordStep entry).perform inst).next fun m =>
          (if gates.rules then m.emitStep fuel entry else .done m).next advance

end Machine

end TapeLang
