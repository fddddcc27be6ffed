/-! Operations of the machine, their names and their characters. -/

set_option autoImplicit false

namespace TapeLang

inductive Opcode where
  | moveRight
  | moveLeft
  | increment
  | decrement
  | output
  | input
  | jumpIfZero
  | jumpIfNonZero
  /-- An operation that the machine does not know; it has no effect. -/
  | other (name : String)
  deriving DecidableEq, Repr

namespace Opcode

def name : Opcode → String
  | moveRight => "MoveRight"
  | moveLeft => "MoveLeft"
  | increment => "Increment"
  | decrement => "Decrement"
  | output => "Output"
  | input => "Input"
  | jumpIfZero => "JumpIfZero"
  | jumpIfNonZero => "JumpIfNonZero"
  | other name => name

def known : List Opcode :=
  [moveRight, moveLeft, increment, decrement, output, input, jumpIfZero, jumpIfNonZero]

def ofName (name : String) : Opcode :=
  (known.find? (·.name == name)).getD (other name)

def symbol? : Opcode → Option Char
  | moveRight => some '>'
  | moveLeft => some '<'
  | increment => some '+'
  | decrement => some '-'
  | output => some '.'
  | input => some ','
  | jumpIfZero => some '['
  | jumpIfNonZero => some ']'
  | other _ => none

/-- The operation that a character stands for; every other character is commentary. -/
def ofSymbol? : Char → Option Opcode
  | '>' => some moveRight
  | '<' => some moveLeft
  | '+' => some increment
  | '-' => some decrement
  | '.' => some output
  | ',' => some input
  | '[' => some jumpIfZero
  | ']' => some jumpIfNonZero
  | _ => none

theorem ofSymbol?_symbol? {op : Opcode} {c : Char} (h : op.symbol? = some c) :
    ofSymbol? c = some op := by
  cases op <;> simp [symbol?] at h <;> subst h <;> rfl

end Opcode

end TapeLang
