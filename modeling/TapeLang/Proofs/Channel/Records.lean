import TapeLang.Channel.Writer
import TapeLang.Proofs.Decimal.Numerals

/-! What writers keep of the cells that they are given. -/

set_option autoImplicit false

namespace TapeLang

def Codec.codePoints : Codec → UInt8 → List Nat
  | ascii, cell => [cell.toNat]
  | int, cell => (Nat.toDigits 10 cell.toNat).map Char.toNat

theorem Codec.render_cell (codec : Codec) (cell : UInt8) :
    codec.render ↑cell.toNat = .ok (codec.codePoints cell) := by
  have small := cell.toNat_lt
  cases codec with
  | ascii =>
    have within : (0 ≤ (cell.toNat : Int) && (cell.toNat : Int) < 0x110000) = true := by
      simp only [Bool.and_eq_true, decide_eq_true_eq]
      omega
    rw [render, if_pos within]
    rfl
  | int =>
    have writable : Decimal.Writable ↑cell.toNat := Decimal.writable_of_lt (k := 3) (by omega) (by decide)
    have digits : (toString (cell.toNat : Int)).toList = Nat.toDigits 10 cell.toNat :=
      Nat.toList_repr
    rw [render, Decimal.numeral_of_writable writable, codePoints, ← digits]
    rfl

namespace BufferWriter

/-- How a buffer has recorded the cells that it was given: the numbers themselves, and the code
points that each is rendered as. -/
structure Records (codec : Codec) (given : List UInt8) (writer : BufferWriter) : Prop where
  renders : writer.codec = codec
  cells : writer.cells.toList = given.map fun cell => (cell.toNat : Int)
  inRange : ∀ cell ∈ writer.cells, 0 ≤ cell ∧ cell ≤ 255
  text : writer.text.toList = given.flatMap codec.codePoints
  codePoints : codec = .ascii → writer.text.toList.map Int.ofNat = writer.cells.toList

variable {codec : Codec} {given : List UInt8} {writer : BufferWriter}

-- Numbers and text are enough.
theorem records_of (renders : writer.codec = codec)
    (cells : writer.cells.toList = given.map fun cell => (cell.toNat : Int))
    (text : writer.text.toList = given.flatMap codec.codePoints) : writer.Records codec given := by
  refine ⟨renders, cells, fun cell member => ?_, text, ?_⟩
  · rw [← Array.mem_toList_iff, cells, List.mem_map] at member
    obtain ⟨byte, _, rfl⟩ := member
    have small := byte.toNat_lt
    omega
  · rintro rfl
    rw [text, cells, List.map_flatMap, List.map_eq_flatMap]
    rfl

theorem records_empty (codec : Codec) : Records codec [] { codec } := records_of rfl rfl rfl

theorem Records.write (records : writer.Records codec given) (cell : UInt8) :
    ∃ next, Writer.write writer ↑cell.toNat = (.ok (), next) ∧
      next.Records codec (given ++ [cell]) := by
  obtain ⟨own, text, cells⟩ := writer
  obtain ⟨rfl, raw, _, rendered, _⟩ := records
  refine ⟨⟨own, text ++ own.codePoints cell, cells.push ↑cell.toNat⟩, ?_,
    records_of rfl ?_ ?_⟩
  · simp only [Writer.write, write, Codec.render_cell]
  · simpa using raw
  · simpa using rendered

end BufferWriter

namespace FaultyWriter

variable {ω : Type} [Writer ω] {failure : Failure}

theorem write_sound {inner : ω} {calls failing : Nat} (sooner : calls < failing) (cell : Int) :
    Writer.write (FaultyWriter.mk inner calls (some (↑failing, failure))) cell =
      ((Writer.write inner cell).1,
        ⟨(Writer.write inner cell).2, calls + 1, some (↑failing, failure)⟩) := by
  have other : ¬ (failing : Int) = calls := by omega
  simp only [Writer.write, write, if_neg other]

theorem write_failing {inner : ω} {failing : Nat} (cell : Int) :
    Writer.write (FaultyWriter.mk inner failing (some (↑failing, failure))) cell =
      (.error failure, ⟨inner, failing + 1, some (↑failing, failure)⟩) := by
  simp only [Writer.write, write, if_true]

end FaultyWriter

end TapeLang
