import TapeLang.Code.Program
import TapeLang.Source.Cursor

/-! Loading a source text.

The text is read in one pass. An opening bracket is written with a provisional target, which is
replaced once its closing bracket is met, so both brackets of a loop end up with each other's
index. -/

set_option autoImplicit false

namespace TapeLang

inductive ParseError where
  | unmatchedClose (location : SourceLocation)
  /-- `unclosed` brackets stay open, and the last of them stands at `location`. -/
  | unmatchedOpen (location : SourceLocation) (unclosed : Nat)
  deriving DecidableEq, Repr

namespace ParseError

def kind : ParseError → String
  | unmatchedClose _ => "UnmatchedClose"
  | unmatchedOpen _ _ => "UnmatchedOpen"

def location : ParseError → SourceLocation
  | unmatchedClose location => location
  | unmatchedOpen location _ => location

def message : ParseError → String
  | unmatchedClose location =>
    s!"Encountered ']' without corresponding '[' at {location.text}"
  | unmatchedOpen location unclosed =>
    s!"Unbalanced '[' at {location.text}: {unclosed} bracket(s) never closed"

end ParseError

/-- What has been read: the cursor, the instructions and their locations, and the open brackets, the
innermost first, by index and location. -/
structure Scan where
  cursor : Cursor := {}
  code : Array Instruction := #[]
  locations : Array SourceLocation := #[]
  openings : List (Nat × SourceLocation) := []

structure Stopped where
  error : ParseError
  cursor : Cursor

namespace Scan

def location (scan : Scan) (filename : String) (c : Char) : SourceLocation :=
  ⟨filename, scan.cursor.line, scan.cursor.column, String.singleton c⟩

def emit (scan : Scan) (filename : String) (c : Char) (inst : Instruction) : Scan :=
  match scan with
  | ⟨cursor, code, locations, openings⟩ =>
    ⟨cursor.pass c, code.push inst,
      locations.push ⟨filename, cursor.line, cursor.column, String.singleton c⟩, openings⟩

/-- The next character opens a loop, with a provisional target. -/
def enter (scan : Scan) (filename : String) (c : Char) : Scan :=
  match scan with
  | ⟨cursor, code, locations, openings⟩ =>
    let opening := code.size
    let location : SourceLocation := ⟨filename, cursor.line, cursor.column, String.singleton c⟩
    ⟨cursor.pass c, code.push ⟨.jumpIfZero, some 0⟩, locations.push location,
      (opening, location) :: openings⟩

def skip (scan : Scan) (c : Char) : Scan := { scan with cursor := scan.cursor.pass c }

/-- The loop whose opening bracket has the given index ends with the next instruction. -/
def patch (scan : Scan) (opening : Nat) (openings : List (Nat × SourceLocation)) : Scan :=
  match scan with
  | ⟨cursor, code, locations, _⟩ =>
    let closing := code.size
    ⟨cursor, code.setIfInBounds opening ⟨.jumpIfZero, some closing⟩, locations, openings⟩

def read (filename : String) (scan : Scan) (c : Char) : Except Stopped Scan :=
  match Opcode.ofSymbol? c with
  | none => .ok (scan.skip c)
  | some .jumpIfZero => .ok (scan.enter filename c)
  | some .jumpIfNonZero =>
    match scan.openings with
    | [] => .error ⟨.unmatchedClose (scan.location filename c), scan.cursor⟩
    | (opening, _) :: openings =>
      .ok ((scan.patch opening openings).emit filename c ⟨.jumpIfNonZero, some opening⟩)
  | some op => .ok (scan.emit filename c ⟨op, none⟩)

def finish (filename : String) (scan : Scan) : Except Stopped Program :=
  match scan.openings with
  | [] => .ok ⟨scan.code, scan.locations, filename⟩
  | (_, location) :: rest => .error ⟨.unmatchedOpen location (rest.length + 1), scan.cursor⟩

def readAll (filename : String) (scan : Scan) (text : List Char) : Except Stopped Scan :=
  text.foldlM (read filename) scan

end Scan

def scanText (text filename : String) : Except Stopped (Program × Cursor) := do
  let scan ← Scan.readAll filename {} text.toList
  let program ← scan.finish filename
  pure (program, scan.cursor)

def load (text : String) (filename : String := "<string>") : Except ParseError Program :=
  match scanText text filename with
  | .ok (program, _) => .ok program
  | .error stopped => .error stopped.error

end TapeLang
