import TapeLang.Decimal.Shortest
import TapeLang.Decimal.Spelling
import TapeLang.Json.Escape
import TapeLang.Value.Basic

/-! JSON documents: on one line, or with two blanks of indentation for each level. -/

set_option autoImplicit false

namespace TapeLang.Json

def word (s : String) : List Char := s.toList

def number (n : Int) : List Char := word (toString n)

def realNumber (bits : UInt64) : List Char :=
  match Decimal.spellBits bits with
  | "inf" => word "Infinity"
  | "-inf" => word "-Infinity"
  | "nan" => word "NaN"
  | spelled => word spelled

def separated (separator : List Char) : List (List Char) → List Char
  | [] => []
  | [part] => part
  | part :: rest => part ++ separator ++ separated separator rest

mutual

def compactChars : Value → List Char
  | .null => word "null"
  | .bool b => word (if b then "true" else "false")
  | .int n => number n
  | .real bits => realNumber bits
  | .text s => escape s
  | .list items => '[' :: separated [','] (compactItems items) ++ [']']
  | .object members => '\x7b' :: separated [','] (compactMembers members) ++ ['\x7d']

def compactItems : List Value → List (List Char)
  | [] => []
  | v :: rest => compactChars v :: compactItems rest

def compactMembers : List (String × Value) → List (List Char)
  | [] => []
  | (key, v) :: rest => (escape key ++ ':' :: compactChars v) :: compactMembers rest

end

def newline (level : Nat) : List Char := '\n' :: List.replicate (2 * level) ' '

/-- Brackets with each part on a line of its own, one level further in; nothing between them if
there are no parts. -/
def bracketed (opening closing : Char) (level : Nat) (parts : List (List Char)) : List Char :=
  match parts with
  | [] => [opening, closing]
  | parts =>
    opening :: newline (level + 1) ++ separated (',' :: newline (level + 1)) parts ++
      newline level ++ [closing]

mutual

def indentedChars (level : Nat) : Value → List Char
  | .null => word "null"
  | .bool b => word (if b then "true" else "false")
  | .int n => number n
  | .real bits => realNumber bits
  | .text s => escape s
  | .list items => bracketed '[' ']' level (indentedItems (level + 1) items)
  | .object members => bracketed '\x7b' '\x7d' level (indentedMembers (level + 1) members)

def indentedItems (level : Nat) : List Value → List (List Char)
  | [] => []
  | v :: rest => indentedChars level v :: indentedItems level rest

def indentedMembers (level : Nat) : List (String × Value) → List (List Char)
  | [] => []
  | (key, v) :: rest =>
    (escape key ++ ':' :: ' ' :: indentedChars level v) :: indentedMembers level rest

end

def compact (v : Value) : String := String.ofList (compactChars v)

def indented (v : Value) : String := String.ofList (indentedChars 0 v)

mutual

def numbers : Value → List Int
  | .int n => [n]
  | .list items => numbersOfItems items
  | .object members => numbersOfMembers members
  | _ => []

def numbersOfItems : List Value → List Int
  | [] => []
  | v :: rest => numbers v ++ numbersOfItems rest

def numbersOfMembers : List (String × Value) → List Int
  | [] => []
  | (_, v) :: rest => numbers v ++ numbersOfMembers rest

end

/-- An indented document, if its numbers can be written out. -/
def write (v : Value) : Except Unwritable String := Decimal.showing (numbers v) (indented v)

end TapeLang.Json
