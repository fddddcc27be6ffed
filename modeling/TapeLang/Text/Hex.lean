/-! Hexadecimal digits, in lower case. -/

set_option autoImplicit false

namespace TapeLang.Text.Hex

def digit (n : Nat) : Char :=
  if n < 10 then Char.ofNat (48 + n) else Char.ofNat (87 + n)

def digit? (c : Char) : Option Nat :=
  if '0' ≤ c && c ≤ '9' then some (c.toNat - 48)
  else if 'a' ≤ c && c ≤ 'f' then some (c.toNat - 87)
  else if 'A' ≤ c && c ≤ 'F' then some (c.toNat - 55)
  else none

def encode : Nat → Nat → List Char
  | 0, _ => []
  | width + 1, n => encode width (n / 16) ++ [digit (n % 16)]

def decodeBytes? : List Char → Option (List UInt8)
  | [] => some []
  | high :: low :: rest => do
    let high ← digit? high
    let low ← digit? low
    let bytes ← decodeBytes? rest
    pure (UInt8.ofNat (high * 16 + low) :: bytes)
  | [_] => none

end TapeLang.Text.Hex
