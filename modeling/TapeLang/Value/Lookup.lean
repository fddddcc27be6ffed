import TapeLang.Value.Basic

/-! Looking into values. -/

set_option autoImplicit false

namespace TapeLang.Value

def memberInt? (v : Value) (key : String) : Option Int := (v.member? key).bind int?

def memberText? (v : Value) (key : String) : Option String := (v.member? key).bind text?

/-- Whether a value counts as true: all but null, zero and what is empty. -/
def isTrue : Value → Bool
  | null => false
  | bool b => b
  | int n => n ≠ 0
  | real bits => bits ≠ 0 && bits ≠ 0x8000000000000000
  | text s => !s.isEmpty
  | list items => !items.isEmpty
  | object members => !members.isEmpty

mutual

/-- How many values there are inside a value, itself included. -/
def weight : Value → Nat
  | list items => weightOfItems items + 1
  | object members => weightOfMembers members + 1
  | _ => 1

def weightOfItems : List Value → Nat
  | [] => 0
  | v :: rest => v.weight + weightOfItems rest

def weightOfMembers : List (String × Value) → Nat
  | [] => 0
  | (_, v) :: rest => v.weight + weightOfMembers rest

end

end TapeLang.Value
