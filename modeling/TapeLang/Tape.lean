import TapeLang.Failure

/-! The tape: 30000 cells of one byte each. -/

set_option autoImplicit false

namespace TapeLang

structure Tape where
  cells : Array UInt8
  size_cells : cells.size = 30000

namespace Tape

def size : Nat := 30000

def blank : Tape := ⟨Array.replicate 30000 0, by simp⟩

instance : Inhabited Tape := ⟨blank⟩

/-- The cell that an index stands for; a negative index counts from the end. -/
def position? (index : Int) : Option Nat :=
  if 0 ≤ index then if index < size then some index.toNat else none
  else if -size ≤ index then some (index + size).toNat else none

def cell (tape : Tape) (k : Nat) : UInt8 := tape.cells.getD k 0

def put (tape : Tape) (k : Nat) (cell : UInt8) : Tape :=
  match tape with
  | ⟨cells, size_cells⟩ => ⟨cells.setIfInBounds k cell, by simp [size_cells]⟩

def get? (tape : Tape) (index : Int) : Option UInt8 := (position? index).map tape.cell

/-- The cells from `start` up to `stop`; a negative `stop` counts from the end. -/
def slice (tape : Tape) (start : Nat) (stop : Int) : List UInt8 :=
  (tape.cells.extract start (if 0 ≤ stop then stop else stop + size).toNat).toList

/-- Cells around a pointer, and where they begin. -/
structure Window where
  start : Nat
  cells : List UInt8
  deriving DecidableEq, Repr

/-- The window that reaches `radius` cells to either side of `pointer`, as far as the tape goes. -/
def window (tape : Tape) (pointer radius : Int) : Window :=
  let start := (pointer - radius).toNat
  ⟨start, tape.slice start (min size (pointer + radius + 1))⟩

end Tape

end TapeLang
