import TapeLang.Json.Reader

/-! The grammar of JSON documents.

The rules say which texts are documents, and of which values. They are those of the standard, for
documents in which every number is whole: a number has neither a fraction nor an exponent. -/

set_option autoImplicit false

namespace TapeLang.Json

def Blank (cs : List Char) : Prop := ∀ c ∈ cs, isSpace c

def shortEscapes : List (Char × Char) :=
  [('"', '"'), ('\\', '\\'), ('/', '/'), ('b', '\x08'), ('f', '\x0c'), ('n', '\n'), ('r', '\r'),
    ('t', '\t')]

inductive SpellsUnit : Nat → List Char → Prop where
  | digits {a b c d : Char} {p q r s : Nat} :
      Text.Hex.digit? a = some p → Text.Hex.digit? b = some q → Text.Hex.digit? c = some r →
      Text.Hex.digit? d = some s →
      SpellsUnit (p * 0x1000 + q * 0x100 + r * 0x10 + s) [a, b, c, d]

/-- The ways of writing one character of a text. A character outside the basic plane is written as
itself or as a pair of surrogates. -/
inductive SpellsChar : Char → List Char → Prop where
  | plain {c : Char} : ' ' ≤ c → c ≠ '"' → c ≠ '\\' → SpellsChar c [c]
  | short {mark c : Char} : (mark, c) ∈ shortEscapes → SpellsChar c ['\\', mark]
  | unit {code : Nat} {digits : List Char} : SpellsUnit code digits →
      code < 0xD800 ∨ 0xE000 ≤ code → SpellsChar (Char.ofNat code) ('\\' :: 'u' :: digits)
  | pair {high low : Nat} {first second : List Char} :
      SpellsUnit high first → 0xD800 ≤ high → high < 0xDC00 →
      SpellsUnit low second → 0xDC00 ≤ low → low < 0xE000 →
      SpellsChar (Char.ofNat (0x10000 + (high - 0xD800) * 0x400 + (low - 0xDC00)))
        ('\\' :: 'u' :: first ++ '\\' :: 'u' :: second)

inductive SpellsChars : List Char → List Char → Prop where
  | nil : SpellsChars [] []
  | cons {c : Char} {cs written rest : List Char} : SpellsChar c written → SpellsChars cs rest →
      SpellsChars (c :: cs) (written ++ rest)

inductive SpellsText : String → List Char → Prop where
  | quoted {s : String} {written : List Char} : SpellsChars s.toList written →
      SpellsText s ('"' :: written ++ ['"'])

/-- Decimal digits, without a zero in front of other digits. -/
structure SpellsNat (n : Nat) (digits : List Char) : Prop where
  nonempty : digits ≠ []
  decimal : ∀ c ∈ digits, isDigit c
  shortest : digits.head? = some '0' → digits = ['0']
  value : digitsValue digits = n

inductive SpellsInt : Int → List Char → Prop where
  | positive {n : Nat} {digits : List Char} : SpellsNat n digits → SpellsInt n digits
  | negative {n : Nat} {digits : List Char} : SpellsNat n digits → SpellsInt (-n) ('-' :: digits)

/-- What a stretch of a document stands for. An item has blanks around its value, and there is at
least one item or member where there are some. -/
inductive Node where
  | value (v : Value)
  | item (v : Value)
  | items (vs : List Value)
  | member (key : String) (v : Value)
  | members (ms : List (String × Value))

inductive Spells : Node → List Char → Prop where
  | null : Spells (.value .null) ['n', 'u', 'l', 'l']
  | yes : Spells (.value (.bool true)) ['t', 'r', 'u', 'e']
  | no : Spells (.value (.bool false)) ['f', 'a', 'l', 's', 'e']
  | int {n : Int} {written : List Char} : SpellsInt n written → Spells (.value (.int n)) written
  | text {s : String} {written : List Char} : SpellsText s written →
      Spells (.value (.text s)) written
  | emptyList {blank : List Char} : Blank blank → Spells (.value (.list [])) ('[' :: blank ++ [']'])
  | list {vs : List Value} {written : List Char} : Spells (.items vs) written →
      Spells (.value (.list vs)) ('[' :: written ++ [']'])
  | emptyObject {blank : List Char} : Blank blank →
      Spells (.value (.object [])) ('\x7b' :: blank ++ ['\x7d'])
  | object {ms : List (String × Value)} {written : List Char} : Spells (.members ms) written →
      Spells (.value (.object ms)) ('\x7b' :: written ++ ['\x7d'])
  | item {v : Value} {before written after : List Char} :
      Blank before → Spells (.value v) written → Blank after →
      Spells (.item v) (before ++ written ++ after)
  | lastItem {v : Value} {written : List Char} : Spells (.item v) written →
      Spells (.items [v]) written
  | items {v : Value} {vs : List Value} {written rest : List Char} :
      Spells (.item v) written → Spells (.items vs) rest →
      Spells (.items (v :: vs)) (written ++ ',' :: rest)
  | member {key : String} {v : Value} {before name after written : List Char} :
      Blank before → SpellsText key name → Blank after → Spells (.item v) written →
      Spells (.member key v) (before ++ name ++ after ++ ':' :: written)
  | lastMember {key : String} {v : Value} {written : List Char} :
      Spells (.member key v) written → Spells (.members [(key, v)]) written
  | members {key : String} {v : Value} {ms : List (String × Value)} {written rest : List Char} :
      Spells (.member key v) written → Spells (.members ms) rest →
      Spells (.members ((key, v) :: ms)) (written ++ ',' :: rest)

def Document (v : Value) (cs : List Char) : Prop := Spells (.item v) cs

end TapeLang.Json
