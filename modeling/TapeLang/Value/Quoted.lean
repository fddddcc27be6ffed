import TapeLang.Decimal.Shortest
import TapeLang.Decimal.Spelling
import TapeLang.Text.Quoted
import TapeLang.Value.Basic

/-! Values as messages show them. -/

set_option autoImplicit false

namespace TapeLang.Value

/-- How deep values may stand within each other: as deep as calls may be nested, less the calls that
are under way when an answer is read. -/
def maxDepth : Nat := 994

mutual

/-- The text of a value with quotes around texts, where values may stand `depth` deep within each
other. -/
def quotedWithin : Nat → Value → Except Unwritable String
  | 0, _ => .error .tooDeep
  | _ + 1, null => .ok "None"
  | _ + 1, bool b => .ok (if b then "True" else "False")
  | _ + 1, int n => Decimal.numeral n
  | _ + 1, real bits => .ok (Decimal.spellBits bits)
  | _ + 1, text s => .ok (Text.quoted s)
  | depth + 1, list items => do
    let texts ← quotedItems depth items
    pure ("[" ++ ", ".intercalate texts ++ "]")
  | depth + 1, object members => do
    let texts ← quotedMembers depth members
    pure ("\x7b" ++ ", ".intercalate texts ++ "\x7d")

def quotedItems : Nat → List Value → Except Unwritable (List String)
  | _, [] => .ok []
  | depth, v :: rest => do
    let first ← quotedWithin depth v
    let others ← quotedItems depth rest
    pure (first :: others)

def quotedMembers : Nat → List (String × Value) → Except Unwritable (List String)
  | _, [] => .ok []
  | depth, (key, v) :: rest => do
    let first ← quotedWithin depth v
    let others ← quotedMembers depth rest
    pure ((Text.quoted key ++ ": " ++ first) :: others)

end

def quoted (v : Value) : Except Unwritable String := v.quotedWithin maxDepth

/-- A text stands for itself; every other value is shown as between quotes. -/
def shown : Value → Except Unwritable String
  | text s => .ok s
  | v => v.quoted

end TapeLang.Value
