import TapeLang.Proofs.Machine.Failing
import TapeLang.Proofs.Source.Block

/-! The meaning of a text by its structure.

A block is evaluated over a store without a counter: commands in their order, and a loop as long as
the cell is not zero. Steps, reads and writes are counted and kept as they happen. -/

set_option autoImplicit false

namespace TapeLang

structure Store (ρ ω : Type) where
  tape : Tape
  pointer : Fin Tape.size
  reader : ρ
  writer : ω
  /-- The first one comes first. -/
  transfers : List Transfer := []
  steps : Nat := 0

structure CommandFault where
  reason : Reason
  command : Nat

namespace Store

variable {ρ ω : Type}

def start (reader : ρ) (writer : ω) : Store ρ ω :=
  ⟨Tape.blank, ⟨0, by decide⟩, reader, writer, [], 0⟩

def cell (s : Store ρ ω) : UInt8 := s.tape.cell s.pointer

def put (s : Store ρ ω) (cell : UInt8) : Store ρ ω := { s with tape := s.tape.put s.pointer cell }

def tick (s : Store ρ ω) : Store ρ ω := { s with steps := s.steps + 1 }

@[simp] theorem transfers_tick (s : Store ρ ω) : s.tick.transfers = s.transfers := rfl

@[simp] theorem cell_tick (s : Store ρ ω) : s.tick.cell = s.cell := rfl

def moveRight (s : Store ρ ω) : Outcome Reason (Store ρ ω) :=
  if inside : s.pointer + 1 < Tape.size then .done { s with pointer := ⟨s.pointer + 1, inside⟩ }
  else .stopped (.pointerMoved .right ↑↑s.pointer) s

def moveLeft (s : Store ρ ω) : Outcome Reason (Store ρ ω) :=
  if 0 < s.pointer.val then
    .done { s with pointer := ⟨s.pointer - 1, Nat.lt_of_le_of_lt (Nat.sub_le ..) s.pointer.isLt⟩ }
  else .stopped (.pointerMoved .left ↑↑s.pointer) s

def output [Writer ω] (s : Store ρ ω) : Outcome Reason (Store ρ ω) :=
  let (answer, writer) := Writer.write s.writer s.cell.toNat
  let after := { s with writer, transfers := s.transfers ++ [.wrote s.cell answer] }
  match answer with
  | .ok () => .done after
  | .error failure => .stopped (.channelFailed .output failure) after

def input [Reader ρ] (s : Store ρ ω) : Outcome Reason (Store ρ ω) :=
  let (answer, reader) := Reader.read s.reader
  let after := { s with reader, transfers := s.transfers ++ [.read answer] }
  match answer with
  | .error failure => .stopped (.channelFailed .input failure) after
  | .ok value =>
    match value.cell? with
    | none => .stopped (.badInput value) after
    | some cell => .done (after.put cell)

end Store

variable {ρ ω : Type} [Reader ρ] [Writer ω]

def Command.effect : Command → Store ρ ω → Outcome Reason (Store ρ ω)
  | moveRight, s => s.moveRight
  | moveLeft, s => s.moveLeft
  | increment, s => .done (s.put (s.cell + 1))
  | decrement, s => .done (s.put (s.cell - 1))
  | output, s => s.output
  | input, s => s.input

/-- A failing command has been counted as a step, too. It fails for a reason that can be told. -/
def Command.eval (command : Command) (index : Nat) (s : Store ρ ω) :
    Outcome CommandFault (Store ρ ω) :=
  match command.effect s.tick with
  | .done s => .done s
  | .stopped reason s => .stopped ⟨reason.told, index⟩ s
  | .exhausted => .exhausted

namespace Block

/-- Repeats a body, and a step for the closing bracket after it, until that step finds the cell
zero. The bound is the number of rounds. -/
def untilZero (body : Store ρ ω → Outcome CommandFault (Store ρ ω)) :
    Nat → Store ρ ω → Outcome CommandFault (Store ρ ω)
  | 0, _ => .exhausted
  | rounds + 1, s =>
    (body s).next fun s => if s.cell = 0 then .done s.tick else untilZero body rounds s.tick

/-- Evaluates a block of which the first command has the index `index`. A loop takes a step to test
the cell on entry; every loop is given as many rounds as `fuel` says. -/
def eval (fuel : Nat) : Nat → Block → Store ρ ω → Outcome CommandFault (Store ρ ω)
  | _, done, s => .done s
  | index, command c rest, s => (c.eval index s).next (rest.eval fuel (index + 1))
  | index, loop body rest, s =>
    (if s.cell = 0 then .done s.tick
      else untilZero (body.eval fuel (index + 1)) fuel s.tick).next
    (rest.eval fuel (index + body.size + 2))

end Block

end TapeLang
