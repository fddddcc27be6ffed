/-! Sets of characters given as ranges of code points. -/

set_option autoImplicit false

namespace TapeLang.Text

/-- First and last code point of each range. -/
abbrev Ranges := List (Nat × Nat)

def Ranges.contains (ranges : Ranges) (c : Char) : Bool :=
  ranges.any fun (first, last) => first ≤ c.toNat && c.toNat ≤ last

end TapeLang.Text
