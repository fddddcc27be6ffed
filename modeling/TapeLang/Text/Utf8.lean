/-! UTF-8, read one byte at a time.

A byte sequence falls into characters and undecodable pieces. A piece is as long as it can be while
it still starts some character, so reading resumes at the first byte that could not follow. -/

set_option autoImplicit false

namespace TapeLang.Text.Utf8

/-- A character of which `owed` bytes are still to come, the next one from `low` to `high`. -/
structure Partial where
  owed : Nat
  low : Nat
  high : Nat
  code : Nat

def Partial.ofLead? (byte : Nat) : Option Partial :=
  if 0xC2 ≤ byte && byte ≤ 0xDF then some ⟨1, 0x80, 0xBF, byte - 0xC0⟩
  else if byte = 0xE0 then some ⟨2, 0xA0, 0xBF, 0⟩
  else if byte = 0xED then some ⟨2, 0x80, 0x9F, 0xD⟩
  else if 0xE1 ≤ byte && byte ≤ 0xEF then some ⟨2, 0x80, 0xBF, byte - 0xE0⟩
  else if byte = 0xF0 then some ⟨3, 0x90, 0xBF, 0⟩
  else if 0xF1 ≤ byte && byte ≤ 0xF3 then some ⟨3, 0x80, 0xBF, byte - 0xF0⟩
  else if byte = 0xF4 then some ⟨3, 0x80, 0x8F, 4⟩
  else none

/-- What has been read so far; `none` in `units` stands for an undecodable piece. -/
structure Decoder where
  opened : Option Partial := none
  units : Array (Option Char) := #[]

def Decoder.pushFirst (units : Array (Option Char)) (byte : Nat) : Decoder :=
  if byte < 0x80 then ⟨none, units.push (some (Char.ofNat byte))⟩
  else match Partial.ofLead? byte with
    | some opened => ⟨some opened, units⟩
    | none => ⟨none, units.push none⟩

def Decoder.push (decoder : Decoder) (byte : UInt8) : Decoder :=
  match decoder with
  | ⟨none, units⟩ => pushFirst units byte.toNat
  | ⟨some ⟨owed, low, high, code⟩, units⟩ =>
    if low ≤ byte.toNat && byte.toNat ≤ high then
      let code := code * 64 + byte.toNat % 64
      if owed ≤ 1 then ⟨none, units.push (some (Char.ofNat code))⟩
      else ⟨some ⟨owed - 1, 0x80, 0xBF, code⟩, units⟩
    else pushFirst (units.push none) byte.toNat

def units (bytes : List UInt8) : List (Option Char) :=
  let decoder := bytes.foldl Decoder.push {}
  match decoder.opened with
  | none => decoder.units.toList
  | some _ => (decoder.units.push none).toList

/-- Each undecodable piece becomes one replacement character. -/
def decodeReplacing (bytes : List UInt8) : List Char :=
  (units bytes).map (·.getD '\uFFFD')

def decode? (bytes : List UInt8) : Option (List Char) :=
  (units bytes).mapM id

def encode (s : String) : List UInt8 := s.toUTF8.toList

end TapeLang.Text.Utf8
