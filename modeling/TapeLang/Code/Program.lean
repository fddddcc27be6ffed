import TapeLang.Code.Opcode

/-! Programs: instructions with resolved jump targets, and where each stands in the source. -/

set_option autoImplicit false

namespace TapeLang

structure SourceLocation where
  file : String
  line : Int
  column : Int
  symbol : String
  deriving DecidableEq, Repr

def SourceLocation.text (location : SourceLocation) : String :=
  s!"{location.file}:{location.line}:{location.column}"

/-- A jump's target is the index of the instruction before the one to go on with. -/
structure Instruction where
  op : Opcode
  target : Option Int := none
  deriving DecidableEq, Repr

inductive Fetched where
  | finished
  | outside
  | instruction (inst : Instruction)

structure Program where
  code : Array Instruction := #[]
  locations : Array SourceLocation := #[]
  filename : String := "<string>"

namespace Program

def size (program : Program) : Nat := program.code.size

/-- Programs are compared by their instructions; where these stand in a source does not count. -/
instance : BEq Program := ⟨fun p q => p.code == q.code⟩

/-- Programs that compare equal have the same instructions. -/
theorem beq_iff {p q : Program} : (p == q) = true ↔ p.code = q.code := by
  show (p.code == q.code) = true ↔ _
  rw [beq_iff_eq]

/-- The instruction at an index; a negative one counts from the end. -/
def get? (program : Program) (index : Int) : Option Instruction :=
  if 0 ≤ index then program.code[index.toNat]?
  else if 0 ≤ index + program.size then program.code[(index + program.size).toNat]?
  else none

/-- An index at or past the end is where a program finishes. -/
def fetch (program : Program) (index : Int) : Fetched :=
  if (program.size : Int) ≤ index then .finished
  else match program.get? index with
    | some inst => .instruction inst
    | none => .outside

/-- Where the instruction at an index stands; a negative index has no location. -/
def locate (program : Program) (index : Int) : Option SourceLocation :=
  if 0 ≤ index then program.locations[index.toNat]? else none

end Program

end TapeLang
