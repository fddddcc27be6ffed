/-! Line ends: one spelling for all of them, and cutting a text into its lines. -/

set_option autoImplicit false

namespace TapeLang.Text

/-- The text so far with its line ends unified, and whether it ended in a carriage return. -/
structure NewlineReader where
  written : Array Char := #[]
  afterReturn : Bool := false

def NewlineReader.push (reader : NewlineReader) (c : Char) : NewlineReader :=
  if c = '\r' then ⟨reader.written.push '\n', true⟩
  else if c = '\n' && reader.afterReturn then ⟨reader.written, false⟩
  else ⟨reader.written.push c, false⟩

/-- Every carriage return, with a line feed that may follow it, becomes one line feed. -/
def unifyNewlines (cs : List Char) : List Char :=
  (cs.foldl NewlineReader.push {}).written.toList

def isLineBoundary (c : Char) : Bool :=
  c = '\n' || c = '\x0b' || c = '\x0c' || c = '\r' || c = '\x1c' || c = '\x1d' || c = '\x1e' ||
    c = '\u0085' || c = '\u2028' || c = '\u2029'

/-- Lines that are complete, and the characters of the line being read, nearest first. -/
structure LineReader where
  lines : Array (List Char) := #[]
  line : List Char := []
  afterReturn : Bool := false

def LineReader.push (reader : LineReader) (c : Char) : LineReader :=
  if c = '\n' && reader.afterReturn then { reader with afterReturn := false }
  else if isLineBoundary c then ⟨reader.lines.push reader.line.reverse, [], c = '\r'⟩
  else ⟨reader.lines, c :: reader.line, false⟩

/-- The lines of a text without their ends; a line end at the end of the text starts no line. -/
def splitLines (cs : List Char) : List (List Char) :=
  let reader := cs.foldl LineReader.push {}
  match reader.line with
  | [] => reader.lines.toList
  | line => (reader.lines.push line.reverse).toList

end TapeLang.Text
