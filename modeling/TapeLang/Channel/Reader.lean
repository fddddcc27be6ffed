import TapeLang.Failure
import TapeLang.Text.Utf8
import TapeLang.Value.Basic

/-! Readers: where a machine takes its input from. -/

set_option autoImplicit false

namespace TapeLang

/-- One reading answers with a value or fails, and leaves the reader for the next one. -/
class Reader (ρ : Type) where
  read : ρ → Except Failure Value × ρ

/-- What a reader answers past its end; nothing means that it fails there. -/
def answerAtEnd : Option Value → Except Failure Value
  | some v => .ok v
  | none => .error .endOfInput

def byteValue (byte : UInt8) : Value := .int byte.toNat

structure BufferReader where
  data : Array UInt8 := #[]
  index : Nat := 0
  atEnd : Option Value := some (.int 0)

namespace BufferReader

def read (reader : BufferReader) : Except Failure Value × BufferReader :=
  match reader.data[reader.index]? with
  | some byte => (.ok (byteValue byte), { reader with index := reader.index + 1 })
  | none => (answerAtEnd reader.atEnd, reader)

instance : Reader BufferReader := ⟨read⟩

def ofText (text : String) (atEnd : Option Value) : Except Failure BufferReader :=
  if text.toList.all (·.toNat < 256) then
    .ok { data := (text.toList.map fun c => UInt8.ofNat c.toNat).toArray, atEnd }
  else .error .notLatin

end BufferReader

structure StreamReader where
  rest : List UInt8 := []
  atEnd : Option Value := some (.int 0)

namespace StreamReader

def read (reader : StreamReader) : Except Failure Value × StreamReader :=
  match reader.rest with
  | byte :: rest => (.ok (byteValue byte), { reader with rest })
  | [] => (answerAtEnd reader.atEnd, reader)

instance : Reader StreamReader := ⟨read⟩

end StreamReader

structure ScriptReader where
  rest : List (Except Failure Value) := []

namespace ScriptReader

def read (reader : ScriptReader) : Except Failure Value × ScriptReader :=
  match reader.rest with
  | answer :: rest => (answer, ⟨rest⟩)
  | [] => (.error .scriptExhausted, reader)

instance : Reader ScriptReader := ⟨read⟩

end ScriptReader

inductive AnyReader where
  | buffer (reader : BufferReader)
  | stream (reader : StreamReader)
  | script (reader : ScriptReader)

namespace AnyReader

def read : AnyReader → Except Failure Value × AnyReader
  | buffer reader => (reader.read.1, buffer reader.read.2)
  | stream reader => (reader.read.1, stream reader.read.2)
  | script reader => (reader.read.1, script reader.read.2)

instance : Reader AnyReader := ⟨read⟩

def position? : AnyReader → Option Nat
  | buffer reader => some reader.index
  | _ => none

end AnyReader

def readTimes {ρ : Type} [Reader ρ] : Nat → ρ → List (Except Failure Value × ρ)
  | 0, _ => []
  | n + 1, reader =>
    let answer := Reader.read reader
    answer :: readTimes n answer.2

end TapeLang
