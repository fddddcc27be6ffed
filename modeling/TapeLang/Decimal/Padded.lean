import TapeLang.Decimal.Spelling

/-! Decimal numerals of a least width, filled up with zeros on the left. -/

set_option autoImplicit false

namespace TapeLang.Decimal

def padded (width n : Nat) : String :=
  let digits := toString n
  String.ofList (List.replicate (width - digits.length) '0') ++ digits

def paddedNumeral (width n : Nat) : Except Unwritable String :=
  (fun _ => padded width n) <$> numeral n

end TapeLang.Decimal
