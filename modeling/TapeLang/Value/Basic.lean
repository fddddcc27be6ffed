/-! Values that cross the boundary of the machine: what a reader answers, what an extension declares
and what a report holds. -/

set_option autoImplicit false

namespace TapeLang

inductive Value where
  | null
  | bool (b : Bool)
  | int (n : Int)
  /-- A floating-point number, by its 64 bits. -/
  | real (bits : UInt64)
  | text (s : String)
  | list (items : List Value)
  /-- Members in the order in which they were written. -/
  | object (members : List (String × Value))
  deriving Inhabited, BEq

namespace Value

def member? (key : String) : Value → Option Value
  | object members => (members.find? (·.1 == key)).map (·.2)
  | _ => none

def int? : Value → Option Int
  | int n => some n
  | _ => none

def text? : Value → Option String
  | text s => some s
  | _ => none

def list? : Value → Option (List Value)
  | list items => some items
  | _ => none

/-- Equality with a number, where a truth value counts as 0 or 1 and a floating-point number as the
number it stands for. -/
def isOne : Value → Bool
  | bool b => b
  | int n => n = 1
  | real bits => bits = 0x3FF0000000000000
  | _ => false

end Value

end TapeLang
