import TapeLang.Failure
import TapeLang.Text.Blank
import TapeLang.Text.Case
import TapeLang.Text.CodePoints

/-! Codecs: how a written cell becomes text. -/

set_option autoImplicit false

namespace TapeLang

inductive Codec where
  /-- The character with the cell's value as its code point. -/
  | ascii
  /-- The cell's decimal digits, with nothing between one cell and the next. -/
  | int
  deriving DecidableEq, Repr

namespace Codec

def name : Codec → String
  | ascii => "ascii"
  | int => "int"

/-- The codec of a name; blanks around it and the case of its letters do not matter. -/
def ofName (name : String) : Except Failure Codec :=
  match Text.lower (Text.trim name) with
  | "ascii" => .ok ascii
  | "int" => .ok int
  | _ => .error (.unknownCodec name)

def render : Codec → Int → Except Failure (List Nat)
  | ascii, cell =>
    if 0 ≤ cell && cell < 0x110000 then .ok [cell.toNat] else .error (.noCharacter cell)
  | int, cell => Text.codePoints <$> Failure.ofWriting (Decimal.numeral cell)

end Codec

end TapeLang
