import TapeLang.Text.Hex

/-! Texts in JSON, written with ASCII characters only.

A character outside the basic plane is written as a surrogate pair. -/

set_option autoImplicit false

namespace TapeLang.Json

def escapeUnit (unit : Nat) : List Char := '\\' :: 'u' :: Text.Hex.encode 4 unit

def escapeChar (c : Char) : List Char :=
  if c = '"' then ['\\', '"']
  else if c = '\\' then ['\\', '\\']
  else if c = '\n' then ['\\', 'n']
  else if c = '\r' then ['\\', 'r']
  else if c = '\t' then ['\\', 't']
  else if c = '\x08' then ['\\', 'b']
  else if c = '\x0c' then ['\\', 'f']
  else if ' ' ≤ c && c ≤ '~' then [c]
  else if c.toNat < 0x10000 then escapeUnit c.toNat
  else
    let offset := c.toNat - 0x10000
    escapeUnit (0xD800 + offset / 0x400) ++ escapeUnit (0xDC00 + offset % 0x400)

def escape (s : String) : List Char := '"' :: s.toList.flatMap escapeChar ++ ['"']

end TapeLang.Json
