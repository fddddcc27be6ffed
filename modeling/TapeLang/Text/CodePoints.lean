/-! Text that is written out, by its code points. A single surrogate may be among them, which no
character is. -/

set_option autoImplicit false

namespace TapeLang.Text

def codePoints (s : String) : List Nat := s.toList.map Char.toNat

def ofCodePoints (codes : List Nat) : String := String.ofList (codes.map Char.ofNat)

end TapeLang.Text
