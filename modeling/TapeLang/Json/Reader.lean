import TapeLang.Text.Hex
import TapeLang.Value.Basic

/-! Reading JSON documents.

A number with a fraction or an exponent is read as the nearest floating-point number, any other one
as a whole number. The words `Infinity` and `NaN` stand for the floating-point numbers that have no
digits. -/

set_option autoImplicit false

namespace TapeLang.Json

def isSpace (c : Char) : Bool := c = ' ' || c = '\n' || c = '\r' || c = '\t'

def skipSpaces (cs : List Char) : List Char := cs.dropWhile isSpace

def isDigit (c : Char) : Bool := '0' ≤ c && c ≤ '9'

def digitsValue (cs : List Char) : Nat := cs.foldl (fun n c => n * 10 + (c.toNat - 48)) 0

def infinity : UInt64 := 0x7FF0000000000000

def notANumber : UInt64 := 0x7FF8000000000000

/-- Exponents beyond these bounds give infinity and zero for every mantissa of a document. -/
def nearest (mantissa : Nat) (exponent : Int) (size : Nat) : UInt64 :=
  if mantissa = 0 || exponent + size < -400 then 0
  else if exponent > 400 then infinity
  else if exponent < 0 then (Float.ofScientific mantissa true exponent.natAbs).toBits
  else (Float.ofScientific mantissa false exponent.natAbs).toBits

def readFraction : List Char → Option (List Char × List Char)
  | '.' :: rest =>
    match rest.span isDigit with
    | ([], _) => none
    | (fraction, rest) => some (fraction, rest)
  | rest => some ([], rest)

def readExponent : List Char → Option (Option Int × List Char)
  | c :: rest =>
    if c = 'e' || c = 'E' then
      let (negative, rest) := match rest with
        | '-' :: rest => (true, rest)
        | '+' :: rest => (false, rest)
        | rest => (false, rest)
      match rest.span isDigit with
      | ([], _) => none
      | (digits, rest) =>
        let size : Int := digitsValue digits
        some (some (if negative then -size else size), rest)
    else some (none, c :: rest)
  | [] => some (none, [])

def negated (bits : UInt64) : UInt64 := bits ||| 0x8000000000000000

def readMagnitude (negative : Bool) (cs : List Char) : Option (Value × List Char) :=
  match cs.span isDigit with
  | ([], _) => none
  | (whole, rest) => do
    let (fraction, rest) ← readFraction rest
    let (exponent, rest) ← readExponent rest
    if fraction.isEmpty && exponent.isNone then
      let n : Int := digitsValue whole
      pure (.int (if negative then -n else n), rest)
    else
      let digits := whole ++ fraction
      let bits := nearest (digitsValue digits) (exponent.getD 0 - fraction.length) digits.length
      pure (.real (if negative then negated bits else bits), rest)

def readWord (expected : List Char) (v : Value) (cs : List Char) : Option (Value × List Char) :=
  if expected.isPrefixOf cs then some (v, cs.drop expected.length) else none

def readNumber : List Char → Option (Value × List Char)
  | 'N' :: rest => readWord ['a', 'N'] (.real notANumber) rest
  | 'I' :: rest => readWord "nfinity".toList (.real infinity) rest
  | '-' :: 'I' :: rest => readWord "nfinity".toList (.real (negated infinity)) rest
  | '-' :: rest => readMagnitude true rest
  | cs => readMagnitude false cs

def readUnit (cs : List Char) : Option (Nat × List Char) :=
  match cs with
  | a :: b :: c :: d :: rest => do
    let a ← Text.Hex.digit? a
    let b ← Text.Hex.digit? b
    let c ← Text.Hex.digit? c
    let d ← Text.Hex.digit? d
    pure (a * 0x1000 + b * 0x100 + c * 0x10 + d, rest)
  | _ => none

/-- The character after the backslash and `u`; a high surrogate takes the escape that follows it. -/
def readEscapedUnit (cs : List Char) : Option (Char × List Char) := do
  let (unit, rest) ← readUnit cs
  if 0xD800 ≤ unit && unit < 0xDC00 then
    match rest with
    | '\\' :: 'u' :: rest => do
      let (low, rest) ← readUnit rest
      if 0xDC00 ≤ low && low < 0xE000 then
        pure (Char.ofNat (0x10000 + (unit - 0xD800) * 0x400 + (low - 0xDC00)), rest)
      else none
    | _ => none
  else if 0xDC00 ≤ unit && unit < 0xE000 then none
  else pure (Char.ofNat unit, rest)

def readEscape : List Char → Option (Char × List Char)
  | '"' :: rest => some ('"', rest)
  | '\\' :: rest => some ('\\', rest)
  | '/' :: rest => some ('/', rest)
  | 'b' :: rest => some ('\x08', rest)
  | 'f' :: rest => some ('\x0c', rest)
  | 'n' :: rest => some ('\n', rest)
  | 'r' :: rest => some ('\r', rest)
  | 't' :: rest => some ('\t', rest)
  | 'u' :: rest => readEscapedUnit rest
  | _ => none

/-- Characters up to the closing quote; `read` holds those already read, nearest first. -/
def readChars : Nat → List Char → List Char → Option (String × List Char)
  | 0, _, _ => none
  | _ + 1, _, [] => none
  | fuel + 1, read, c :: rest =>
    if c = '"' then some (String.ofList read.reverse, rest)
    else if c = '\\' then do
      let (c, rest) ← readEscape rest
      readChars fuel (c :: read) rest
    else readChars fuel (c :: read) rest

def readText : List Char → Option (String × List Char)
  | '"' :: rest => readChars (rest.length + 1) [] rest
  | _ => none

mutual

def readValue : Nat → List Char → Option (Value × List Char)
  | 0, _ => none
  | fuel + 1, cs =>
    match skipSpaces cs with
    | 'n' :: rest => readWord ['u', 'l', 'l'] .null rest
    | 't' :: rest => readWord ['r', 'u', 'e'] (.bool true) rest
    | 'f' :: rest => readWord ['a', 'l', 's', 'e'] (.bool false) rest
    | '"' :: rest => (readText ('"' :: rest)).map fun (s, rest) => (.text s, rest)
    | '[' :: rest =>
      match skipSpaces rest with
      | ']' :: rest => some (.list [], rest)
      | rest => (readItems fuel rest).map fun (items, rest) => (.list items, rest)
    | '\x7b' :: rest =>
      match skipSpaces rest with
      | '\x7d' :: rest => some (.object [], rest)
      | rest => (readMembers fuel rest).map fun (members, rest) => (.object members, rest)
    | rest => readNumber rest

def readItems : Nat → List Char → Option (List Value × List Char)
  | 0, _ => none
  | fuel + 1, cs => do
    let (v, rest) ← readValue fuel cs
    match skipSpaces rest with
    | ',' :: rest => do
      let (items, rest) ← readItems fuel rest
      pure (v :: items, rest)
    | ']' :: rest => pure ([v], rest)
    | _ => none

def readMembers : Nat → List Char → Option (List (String × Value) × List Char)
  | 0, _ => none
  | fuel + 1, cs => do
    let (key, rest) ← readText (skipSpaces cs)
    match skipSpaces rest with
    | ':' :: rest => do
      let (v, rest) ← readValue fuel rest
      match skipSpaces rest with
      | ',' :: rest => do
        let (members, rest) ← readMembers fuel rest
        pure ((key, v) :: members, rest)
      | '\x7d' :: rest => pure ([(key, v)], rest)
      | _ => none
    | _ => none

end

def parse? (s : String) : Option Value := do
  let cs := s.toList
  let (v, rest) ← readValue (2 * cs.length + 2) cs
  if (skipSpaces rest).isEmpty then some v else none

end TapeLang.Json
