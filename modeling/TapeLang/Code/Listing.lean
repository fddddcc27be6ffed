import TapeLang.Code.Program
import TapeLang.Decimal.Padded
import TapeLang.Failure

/-! Listings: one line for each instruction of a program. -/

set_option autoImplicit false

namespace TapeLang

def Instruction.render (inst : Instruction) : Except Failure String :=
  match inst.op.symbol? with
  | none => .error (.unknownName inst.op.name)
  | some symbol =>
    match inst.target with
    | none => .ok (String.singleton symbol)
    | some target => do
      let target ← Failure.ofWriting (Decimal.numeral target)
      pure s!"{symbol} (target: {target})"

namespace Program

def listingSuffix (program : Program) (index : Nat) : Except Unwritable String :=
  match program.locations[index]? with
  | some location => do
    let line ← Decimal.numeral location.line
    let column ← Decimal.numeral location.column
    pure s!"    ; line {line}, col {column}"
  | none => .ok ""

def listingLine (program : Program) (index : Nat) (inst : Instruction) : Except Failure String := do
  let suffix ← Failure.ofWriting (program.listingSuffix index)
  let number ← Failure.ofWriting (Decimal.paddedNumeral 4 index)
  let text ← inst.render
  pure s!"{number}: {text}{suffix}"

def listingLines (program : Program) (index : Nat) :
    List Instruction → Except Failure (List String)
  | [] => .ok []
  | inst :: rest => do
    let line ← program.listingLine index inst
    let lines ← program.listingLines (index + 1) rest
    pure (line :: lines)

def listing (program : Program) : Except Failure String :=
  ("\n".intercalate ·) <$> program.listingLines 0 program.code.toList

end Program

end TapeLang
