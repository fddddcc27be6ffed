import TapeLang.Channel.Codec

/-! Writers: where a machine sends its output. -/

set_option autoImplicit false

namespace TapeLang

class Writer (ω : Type) where
  write : ω → Int → Except Failure Unit × ω

/-- Keeps the rendered text, and every cell it was given, also one that cannot be rendered. -/
structure BufferWriter where
  codec : Codec := .ascii
  text : Array Nat := #[]
  cells : Array Int := #[]

namespace BufferWriter

def write (writer : BufferWriter) (cell : Int) : Except Failure Unit × BufferWriter :=
  match writer with
  | ⟨codec, text, cells⟩ =>
    match codec.render cell with
    | .ok rendered => (.ok (), ⟨codec, text ++ rendered, cells.push cell⟩)
    | .error failure => (.error failure, ⟨codec, text, cells.push cell⟩)

instance : Writer BufferWriter := ⟨write⟩

end BufferWriter

structure TextSink where
  codec : Codec := .ascii
  /-- Whether each writing flushes. -/
  flushing : Bool := false
  text : Array Nat := #[]
  flushes : Nat := 0

namespace TextSink

def flush (sink : TextSink) : TextSink := { sink with flushes := sink.flushes + 1 }

def write (sink : TextSink) (cell : Int) : Except Failure Unit × TextSink :=
  match sink with
  | ⟨codec, flushing, text, flushes⟩ =>
    match codec.render cell with
    | .ok rendered =>
      (.ok (), ⟨codec, flushing, text ++ rendered, if flushing then flushes + 1 else flushes⟩)
    | .error failure => (.error failure, ⟨codec, flushing, text, flushes⟩)

instance : Writer TextSink := ⟨write⟩

end TextSink

/-- A writer of which one writing, counted from zero, may be made to fail. -/
structure FaultyWriter (ω : Type) where
  inner : ω
  calls : Nat := 0
  fault : Option (Int × Failure) := none

namespace FaultyWriter

variable {ω : Type} [Writer ω]

def write (writer : FaultyWriter ω) (cell : Int) : Except Failure Unit × FaultyWriter ω :=
  match writer with
  | ⟨inner, calls, fault⟩ =>
    match fault with
    | some (failing, failure) =>
      if failing = calls then (.error failure, ⟨inner, calls + 1, fault⟩)
      else
        let (answer, inner) := Writer.write inner cell
        (answer, ⟨inner, calls + 1, fault⟩)
    | none =>
      let (answer, inner) := Writer.write inner cell
      (answer, ⟨inner, calls + 1, none⟩)

instance : Writer (FaultyWriter ω) := ⟨write⟩

end FaultyWriter

def writeEach {ω : Type} [Writer ω] (writer : ω) : List Int → List (Except Failure Unit × ω)
  | [] => []
  | cell :: rest =>
    let answer := Writer.write writer cell
    answer :: writeEach answer.2 rest

end TapeLang
