import TapeLang.Decimal.Spelling
import TapeLang.Text.Blank
import TapeLang.Text.Digit

/-! Whole numbers as people type them: blanks around, a sign, and single underscores between digits,
where the digits of any script count. -/

set_option autoImplicit false

namespace TapeLang.Decimal

/-- Blanks allowed around a numeral; of the controls only the tabulator and those that end a line
or a page. -/
def isNumeralBlank (c : Char) : Bool :=
  if c.toNat < 0x80 then c = ' ' || ('\t' ≤ c && c ≤ '\r') else Text.isBlank c

/-- Digits, most significant first, with single underscores between them; `afterDigit` tells whether
the character before was a digit. -/
def digits? : Bool → List Char → Option (List Nat)
  | afterDigit, [] => if afterDigit then some [] else none
  | afterDigit, c :: rest =>
    if c = '_' then
      if afterDigit then digits? false rest else none
    else do
      let d ← Text.digit? c
      let ds ← digits? true rest
      pure (d :: ds)

def value (digits : List Nat) : Nat :=
  digits.foldl (fun n d => n * 10 + d) 0

def unsigned? (cs : List Char) : Option Nat := do
  let digits ← digits? false cs
  if digits.length ≤ maxDigits then some (value digits) else none

def signed? : List Char → Option Int
  | '-' :: rest => (unsigned? rest).map fun n => -(n : Int)
  | '+' :: rest => (unsigned? rest).map fun n => (n : Int)
  | cs => (unsigned? cs).map fun n => (n : Int)

def parse? (s : String) : Option Int :=
  signed? ((s.toList.dropWhile isNumeralBlank).reverse.dropWhile isNumeralBlank).reverse

end TapeLang.Decimal
