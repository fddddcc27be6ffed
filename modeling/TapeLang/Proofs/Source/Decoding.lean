import Mathlib.Tactic.SplitIfs
import TapeLang.Code.Opcode
import TapeLang.Text.Lines
import TapeLang.Text.Utf8

/-! Commands survive decoding.

Every command is a single byte of the ASCII range. Such a byte ends whatever was opened before it and
stands for itself, and no other byte ever becomes a command: an undecodable piece is replaced, and a
character of several bytes lies above the ASCII range. -/

set_option autoImplicit false

namespace TapeLang

namespace Opcode

def ofByte? (byte : UInt8) : Option Opcode := ofSymbol? (Char.ofNat byte.toNat)

theorem ofSymbol?_of_high {c : Char} (high : 0x80 ≤ c.toNat) : ofSymbol? c = none := by
  unfold ofSymbol?
  split
  case h_9 => rfl
  all_goals exact absurd high (by decide)

theorem ofSymbol?_ofNat {code : Nat} (high : 0x80 ≤ code) : ofSymbol? (Char.ofNat code) = none := by
  by_cases valid : code.isValidChar
  · refine ofSymbol?_of_high ?_
    rw [Char.ofNat, dif_pos valid]
    exact high
  · rw [Char.ofNat, dif_neg valid]
    rfl

theorem ofByte?_of_high {byte : UInt8} (high : 0x80 ≤ byte.toNat) : ofByte? byte = none :=
  ofSymbol?_ofNat high

end Opcode

namespace Text.Utf8

/-- What has been opened ends above the ASCII range, and is ended by every byte of that range. -/
structure Partial.Wide (opened : Partial) : Prop where
  low : 0x80 ≤ opened.low
  high : opened.high ≤ 0xBF
  code : 2 ≤ opened.code ∨ 2 ≤ opened.owed ∧ (1 ≤ opened.code ∨ 0x82 ≤ opened.low)

theorem Partial.wide_of_lead {byte : Nat} {opened : Partial}
    (lead : Partial.ofLead? byte = some opened) : opened.Wide := by
  simp only [ofLead?, Bool.and_eq_true, decide_eq_true_eq] at lead
  split_ifs at lead <;> cases lead <;> constructor <;> dsimp only <;> omega

def opsOf (units : Array (Option Char)) : List Opcode :=
  (units.toList.map (·.getD '\uFFFD')).filterMap Opcode.ofSymbol?

theorem opsOf_push (units : Array (Option Char)) (unit : Option Char) :
    opsOf (units.push unit) = opsOf units ++ (Opcode.ofSymbol? (unit.getD '\uFFFD')).toList := by
  simp only [opsOf, Array.toList_push, List.map_append, List.filterMap_append, List.map_cons,
    List.map_nil]
  cases found : Opcode.ofSymbol? (unit.getD '\uFFFD') <;> simp [found]

theorem opsOf_push_none (units : Array (Option Char)) : opsOf (units.push none) = opsOf units := by
  rw [opsOf_push]
  exact List.append_nil _

structure Decoder.Has (ops : List Opcode) (decoder : Decoder) : Prop where
  wide : ∀ opened, decoder.opened = some opened → opened.Wide
  ops : opsOf decoder.units = ops

variable {units : Array (Option Char)} {ops : List Opcode} {decoder : Decoder}

theorem Decoder.has_pushFirst (same : opsOf units = ops) (byte : UInt8) :
    (Decoder.pushFirst units byte.toNat).Has (ops ++ (Opcode.ofByte? byte).toList) := by
  unfold Decoder.pushFirst
  split
  · exact ⟨nofun, by rw [opsOf_push, same]; rfl⟩
  · rw [Opcode.ofByte?_of_high (Nat.le_of_not_lt ‹_›), Option.toList_none, List.append_nil]
    split
    · rename_i lead
      exact ⟨fun _ same => Option.some.inj same ▸ Partial.wide_of_lead lead, same⟩
    · exact ⟨nofun, (opsOf_push_none units).trans same⟩

theorem Decoder.Has.push (has : decoder.Has ops) (byte : UInt8) :
    (decoder.push byte).Has (ops ++ (Opcode.ofByte? byte).toList) := by
  obtain ⟨opened, units⟩ := decoder
  cases opened with
  | none => exact has_pushFirst has.ops byte
  | some opened =>
    obtain ⟨low, high, wide⟩ := has.wide opened rfl
    obtain ⟨owed, _, _, code⟩ := opened
    dsimp only [Decoder.push] at low high wide ⊢
    split
    · rename_i follows
      simp only [Bool.and_eq_true, decide_eq_true_eq] at follows
      rw [Opcode.ofByte?_of_high (by omega), Option.toList_none, List.append_nil]
      split
      · refine ⟨nofun, ?_⟩
        have above : 0x80 ≤ code * 64 + byte.toNat % 64 := by omega
        rw [opsOf_push, Option.getD_some, Opcode.ofSymbol?_ofNat above, has.ops]
        exact List.append_nil _
      · refine ⟨fun _ same => ?_, has.ops⟩
        cases same
        exact ⟨by simp, by simp, .inl (by dsimp only; omega)⟩
    · exact has_pushFirst ((opsOf_push_none units).trans has.ops) byte

theorem Decoder.Has.foldl (has : decoder.Has ops) (bytes : List UInt8) :
    (bytes.foldl Decoder.push decoder).Has (ops ++ bytes.filterMap Opcode.ofByte?) := by
  induction bytes generalizing decoder ops with
  | nil => simpa using has
  | cons byte bytes ih =>
    have rest := ih (has.push byte)
    rw [List.append_assoc] at rest
    rw [List.filterMap_cons]
    cases found : Opcode.ofByte? byte <;> rw [found] at rest <;> exact rest

/-- Decoding neither loses nor invents a command, nor changes their order. -/
theorem decodeReplacing_ops (bytes : List UInt8) :
    (decodeReplacing bytes).filterMap Opcode.ofSymbol? = bytes.filterMap Opcode.ofByte? := by
  have start : Decoder.Has [] {} := ⟨nofun, rfl⟩
  have has := start.foldl bytes
  rw [List.nil_append] at has
  unfold decodeReplacing Utf8.units
  extract_lets decoder
  split
  · exact has.ops
  · exact (opsOf_push_none _).trans has.ops

end Text.Utf8

namespace Text

theorem NewlineReader.push_ops (reader : NewlineReader) (c : Char) :
    (reader.push c).written.toList.filterMap Opcode.ofSymbol? =
      reader.written.toList.filterMap Opcode.ofSymbol? ++ (Opcode.ofSymbol? c).toList := by
  unfold NewlineReader.push
  have one (d : Char) : (reader.written.push d).toList.filterMap Opcode.ofSymbol? =
      reader.written.toList.filterMap Opcode.ofSymbol? ++ (Opcode.ofSymbol? d).toList := by
    rw [Array.toList_push, List.filterMap_append]
    cases found : Opcode.ofSymbol? d <;> simp [found]
  split
  · rename_i isReturn
    rw [one, isReturn]
    rfl
  · split
    · rename_i ends
      simp only [Bool.and_eq_true, decide_eq_true_eq] at ends
      rw [ends.1]
      exact (List.append_nil _).symm
    · exact one c

/-- Unifying line ends leaves the commands alone. -/
theorem unifyNewlines_ops (cs : List Char) :
    (unifyNewlines cs).filterMap Opcode.ofSymbol? = cs.filterMap Opcode.ofSymbol? := by
  have goesOn (reader : NewlineReader) :
      (cs.foldl NewlineReader.push reader).written.toList.filterMap Opcode.ofSymbol? =
        reader.written.toList.filterMap Opcode.ofSymbol? ++ cs.filterMap Opcode.ofSymbol? := by
    induction cs generalizing reader with
    | nil => simp
    | cons c cs ih =>
      rw [List.foldl_cons, ih, reader.push_ops, List.append_assoc, List.filterMap_cons]
      cases Opcode.ofSymbol? c <;> rfl
  exact goesOn {}

end Text

end TapeLang
