/-! Writing whole numbers out. -/

set_option autoImplicit false

namespace TapeLang

inductive Unwritable where
  | tooManyDigits
  /-- Lists and objects stand too deep within each other. -/
  | tooDeep
  deriving DecidableEq, Repr

namespace Decimal

/-- A longer numeral is refused, whether it is read or written. -/
def maxDigits : Nat := 4300

def Writable (n : Int) : Prop := (Nat.toDigits 10 n.natAbs).length ≤ maxDigits

instance (n : Int) : Decidable (Writable n) := inferInstanceAs (Decidable (_ ≤ _))

def numeral (n : Int) : Except Unwritable String :=
  if Writable n then .ok (toString n) else .error .tooManyDigits

/-- Something that shows some numbers, if each of them can be written out. -/
def showing {α : Type} (numbers : List Int) (shown : α) : Except Unwritable α :=
  if ∀ n ∈ numbers, Writable n then .ok shown else .error .tooManyDigits

end Decimal

end TapeLang
