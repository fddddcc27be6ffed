import TapeLang.Text.Hex
import TapeLang.Text.Printable

/-! Quoted text, for messages.

Single quotes are used unless the text holds some and no double quotes. The quote, the backslash
and every character that is not printable are escaped. -/

set_option autoImplicit false

namespace TapeLang.Text

def quoteFor (cs : List Char) : Char :=
  if cs.contains '\'' && !cs.contains '"' then '"' else '\''

def quotedChar (quote c : Char) : List Char :=
  if c = quote || c = '\\' then ['\\', c]
  else if c = '\t' then ['\\', 't']
  else if c = '\n' then ['\\', 'n']
  else if c = '\r' then ['\\', 'r']
  else if isPrintable c then [c]
  else if c.toNat < 0x100 then '\\' :: 'x' :: Hex.encode 2 c.toNat
  else if c.toNat < 0x10000 then '\\' :: 'u' :: Hex.encode 4 c.toNat
  else '\\' :: 'U' :: Hex.encode 8 c.toNat

def quoted (s : String) : String :=
  let quote := quoteFor s.toList
  String.ofList (quote :: s.toList.flatMap (quotedChar quote) ++ [quote])

end TapeLang.Text
