/-! The shortest decimal that reads back as a given binary floating-point number.

A finite positive number is `m · 2^q`, and the reals that round to it form an interval, which has
its ends if `m` is even. On the grid of multiples of a power of ten the neighbours of the number are
tried, from the coarsest grid on; the first grid with a point in the interval gives the digits. -/

set_option autoImplicit false

namespace TapeLang.Decimal

/-- A positive number `significand · 2^exponent` and the size of the step to the number below it. -/
structure Binary where
  significand : Nat
  exponent : Int
  /-- The number below is half as far away as the number above. -/
  narrowBelow : Bool

/-- The finite positive number with these 64 bits, the sign left out. -/
def Binary.ofBits (bits : UInt64) : Binary :=
  let fraction : Nat := bits.toNat % Nat.pow 2 52
  let biased : Nat := bits.toNat / Nat.pow 2 52 % Nat.pow 2 11
  if biased = 0 then ⟨fraction, -1074, false⟩
  else ⟨Nat.pow 2 52 + fraction, (biased : Int) - 1075, fraction = 0 && biased > 1⟩

/-- The value, and the ends of its rounding interval, all over one denominator. -/
structure Interval where
  low : Nat
  value : Nat
  high : Nat
  denominator : Nat
  closed : Bool

def Binary.interval (x : Binary) : Interval :=
  let scale := Nat.pow 2 (x.exponent - 2).toNat
  { low := (4 * x.significand - if x.narrowBelow then 1 else 2) * scale
    value := 4 * x.significand * scale
    high := (4 * x.significand + 2) * scale
    denominator := Nat.pow 2 (2 - x.exponent).toNat
    closed := x.significand % 2 = 0 }

structure Shortest where
  digits : Nat
  exponent : Int

/-- The multiple of `10^exponent` that lies in the interval and next to the value. -/
def Interval.point? (i : Interval) (exponent : Int) : Option Shortest :=
  let up := Nat.pow 10 (-exponent).toNat
  let unit := i.denominator * Nat.pow 10 exponent.toNat
  let below := i.value * up / unit
  let above := below + 1
  let reaches (n : Nat) : Bool :=
    let x := n * unit
    if i.closed then i.low * up ≤ x && x ≤ i.high * up else i.low * up < x && x < i.high * up
  match reaches below, reaches above with
  | true, true =>
    let down := i.value * up - below * unit
    let rise := above * unit - i.value * up
    if down < rise || (down = rise && below % 2 = 0) then some ⟨below, exponent⟩
    else some ⟨above, exponent⟩
  | true, false => some ⟨below, exponent⟩
  | false, true => some ⟨above, exponent⟩
  | false, false => none

def Interval.search (i : Interval) : Nat → Int → Shortest
  | 0, exponent => ⟨i.value * Nat.pow 10 (-exponent).toNat / i.denominator, exponent⟩
  | fuel + 1, exponent =>
    match i.point? exponent with
    | some point => point
    | none => i.search fuel (exponent - 1)

def dropZeros : Nat → Shortest → Shortest
  | 0, x => x
  | fuel + 1, x =>
    if x.digits ≠ 0 && x.digits % 10 = 0 then dropZeros fuel ⟨x.digits / 10, x.exponent + 1⟩ else x

/-- No finite number reaches `10^309`, and the grid of `10^-324` meets every interval. -/
def shortest (x : Binary) : Shortest :=
  dropZeros 20 (x.interval.search 640 309)

/-- The usual spelling of a number: at least one digit on each side of the point, and powers of ten
from 10^16 on and below 10^-4. -/
def spell (x : Shortest) : String :=
  let digits := (toString x.digits).toList
  let point : Int := digits.length + x.exponent
  if -4 < point && point ≤ 16 then
    if point ≤ 0 then "0." ++ String.ofList (List.replicate (-point).toNat '0' ++ digits)
    else
      let whole := digits.take point.toNat
      let filled := whole ++ List.replicate (point.toNat - whole.length) '0'
      let rest := digits.drop point.toNat
      String.ofList (filled ++ '.' :: if rest.isEmpty then ['0'] else rest)
  else
    let power := point - 1
    let mantissa := match digits with
      | [] => []
      | [d] => [d]
      | d :: ds => d :: '.' :: ds
    let size := toString power.natAbs
    String.ofList mantissa ++ "e" ++ (if power < 0 then "-" else "+") ++
      (if size.length < 2 then "0" ++ size else size)

def spellBits (bits : UInt64) : String :=
  let magnitude := bits.toNat % Nat.pow 2 63
  let sign := if bits.toNat < Nat.pow 2 63 then "" else "-"
  if magnitude > 0x7FF0000000000000 then "nan"
  else if magnitude = 0x7FF0000000000000 then sign ++ "inf"
  else if magnitude = 0 then sign ++ "0.0"
  else sign ++ spell (shortest (Binary.ofBits bits))

end TapeLang.Decimal
