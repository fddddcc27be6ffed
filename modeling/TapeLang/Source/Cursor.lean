/-! Positions in a source text. -/

set_option autoImplicit false

namespace TapeLang

/-- The index of a character, from zero, and its line and column, from one. -/
structure Cursor where
  index : Nat := 0
  line : Nat := 1
  column : Nat := 1
  deriving DecidableEq, Repr

def Cursor.pass (cursor : Cursor) (c : Char) : Cursor :=
  if c = '\n' then ⟨cursor.index + 1, cursor.line + 1, 1⟩
  else ⟨cursor.index + 1, cursor.line, cursor.column + 1⟩

end TapeLang
