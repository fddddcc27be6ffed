import Mathlib.Data.List.Infix
import Mathlib.Data.Nat.Find
import Mathlib.Tactic.SplitIfs
import TapeLang.Proofs.Text.Utf8

/-! What undecodable bytes are read as.

Bytes fall into the encodings of characters and, where no encoding begins, into pieces that are as long
as they can be while some encoding still begins so. Each such piece is read as one replacement
character. This says what decoding gives without following the decoder. -/

set_option autoImplicit false

namespace TapeLang.Text.Utf8

/-- Whether the encoding of some character begins with the bytes. -/
def Begins (piece : List UInt8) : Prop := ∃ c, piece <+: String.utf8EncodeChar c

/-- A piece in front of other bytes, where no character is encoded: one byte, or several with which an
encoding begins, and no longer piece is one. -/
structure Undecodable (piece rest : List UInt8) : Prop where
  nonempty : piece ≠ []
  unencoded : ∀ c, ¬ String.utf8EncodeChar c <+: piece ++ rest
  begins : piece.length = 1 ∨ Begins piece
  longest : ∀ longer, longer <+: piece ++ rest → piece.length < longer.length → ¬ Begins longer

/-- Bytes and the characters that they are read as. -/
inductive ReadsAs : List UInt8 → List Char → Prop where
  | nil : ReadsAs [] []
  | char {c : Char} {rest : List UInt8} {text : List Char} : ReadsAs rest text →
      ReadsAs (String.utf8EncodeChar c ++ rest) (c :: text)
  | replaced {piece rest : List UInt8} {text : List Char} : Undecodable piece rest →
      ReadsAs rest text → ReadsAs (piece ++ rest) ('\uFFFD' :: text)

/-! ## Opened characters -/

section
variable {v : Nat}

theorem begins_two {byte : UInt8} (above : 0x80 ≤ v) (below : v < 0x800)
    (accepts : Partial.Accepts ⟨1, 0x80, 0xBF, v / 64⟩ byte) :
    Begins [.ofNat (v / 64 + 0xC0), byte] := by
  obtain ⟨least, most⟩ := accepts
  dsimp only at least most
  refine ⟨Char.ofNat (v / 64 * 64 + byte.toNat % 64), ?_⟩
  have lead : (v / 64 * 64 + byte.toNat % 64) / 64 = v / 64 := by omega
  have last : (v / 64 * 64 + byte.toNat % 64) % 64 = byte.toNat % 64 := by omega
  rw [encode_two (by omega) (by omega), lead, last, ofNat_continuation least most]

/-- A lead byte of three and a byte that may follow it. -/
theorem begins_three {byte : UInt8} (below : v < 0x10000)
    (least : (if v / 4096 + 0xE0 = 0xE0 then 0xA0 else 0x80) ≤ byte.toNat)
    (most : byte.toNat ≤ if v / 4096 + 0xE0 = 0xED then 0x9F else 0xBF) :
    Begins [.ofNat (v / 4096 + 0xE0), byte] := by
  have range : 0x80 ≤ byte.toNat ∧ byte.toNat ≤ 0xBF := by split_ifs at least most <;> omega
  generalize rest : v / 4096 = high at least most ⊢
  let w := (high * 64 + byte.toNat % 64) * 64
  have first : w / 4096 = high := by omega
  have second : w / 64 % 64 = byte.toNat % 64 := by omega
  have valid : w.isValidChar := by
    show w < 0xD800 ∨ 0xDFFF < w ∧ w < 0x110000
    split_ifs at least most <;> omega
  refine ⟨Char.ofNat w, ?_⟩
  rw [encode_three (by split_ifs at least <;> omega) (by omega) valid, first, second,
    ofNat_continuation range.1 range.2]
  exact ⟨_, rfl⟩

theorem begins_three_last {byte : UInt8} (above : 0x800 ≤ v) (below : v < 0x10000)
    (valid : v.isValidChar) (least : 0x80 ≤ byte.toNat) (most : byte.toNat ≤ 0xBF) :
    Begins [.ofNat (v / 4096 + 0xE0), .ofNat (v / 64 % 64 + 0x80), byte] := by
  have valid : v < 0xD800 ∨ 0xDFFF < v ∧ v < 0x110000 := valid
  let w := v / 64 * 64 + byte.toNat % 64
  have first : w / 4096 = v / 4096 := by omega
  have second : w / 64 % 64 = v / 64 % 64 := by omega
  have third : w % 64 = byte.toNat % 64 := by omega
  have validToo : w.isValidChar := by
    show w < 0xD800 ∨ 0xDFFF < w ∧ w < 0x110000
    omega
  refine ⟨Char.ofNat w, ?_⟩
  rw [encode_three (by omega) (by omega) validToo, first, second, third,
    ofNat_continuation least most]

/-- A lead byte of four and a byte that may follow it. -/
theorem begins_four {byte : UInt8} (below : v < 0x110000)
    (least : (if v / 262144 + 0xF0 = 0xF0 then 0x90 else 0x80) ≤ byte.toNat)
    (most : byte.toNat ≤ if v / 262144 + 0xF0 = 0xF4 then 0x8F else 0xBF) :
    Begins [.ofNat (v / 262144 + 0xF0), byte] := by
  have range : 0x80 ≤ byte.toNat ∧ byte.toNat ≤ 0xBF := by split_ifs at least most <;> omega
  have few : v / 262144 ≤ 4 := by omega
  generalize v / 262144 = high at few least most ⊢
  let w := (high * 64 + byte.toNat % 64) * 4096
  have first : w / 262144 = high := by omega
  have second : w / 4096 % 64 = byte.toNat % 64 := by omega
  refine ⟨Char.ofNat w, ?_⟩
  rw [encode_four (by split_ifs at least <;> omega) (by split_ifs at most <;> omega), first, second,
    ofNat_continuation range.1 range.2]
  exact ⟨_, rfl⟩

theorem begins_four_third {byte : UInt8} (above : 0x10000 ≤ v) (below : v < 0x110000)
    (least : 0x80 ≤ byte.toNat) (most : byte.toNat ≤ 0xBF) :
    Begins [.ofNat (v / 262144 + 0xF0), .ofNat (v / 4096 % 64 + 0x80), byte] := by
  let w := (v / 4096 * 64 + byte.toNat % 64) * 64
  have first : w / 262144 = v / 262144 := by omega
  have second : w / 4096 % 64 = v / 4096 % 64 := by omega
  have third : w / 64 % 64 = byte.toNat % 64 := by omega
  refine ⟨Char.ofNat w, ?_⟩
  rw [encode_four (by omega) (by omega), first, second, third, ofNat_continuation least most]
  exact ⟨_, rfl⟩

theorem begins_four_last {byte : UInt8} (above : 0x10000 ≤ v) (below : v < 0x110000)
    (least : 0x80 ≤ byte.toNat) (most : byte.toNat ≤ 0xBF) :
    Begins [.ofNat (v / 262144 + 0xF0), .ofNat (v / 4096 % 64 + 0x80), .ofNat (v / 64 % 64 + 0x80),
      byte] := by
  let w := v / 64 * 64 + byte.toNat % 64
  have first : w / 262144 = v / 262144 := by omega
  have second : w / 4096 % 64 = v / 4096 % 64 := by omega
  have third : w / 64 % 64 = v / 64 % 64 := by omega
  have fourth : w % 64 = byte.toNat % 64 := by omega
  refine ⟨Char.ofNat w, ?_⟩
  rw [encode_four (by omega) (by omega), first, second, third, fourth,
    ofNat_continuation least most]

/-- The decoder has opened a character after some bytes with which its encoding begins, and the bytes
that may follow are those that go on with the encoding of some character. -/
structure OpensAs (piece : List UInt8) (opened : Partial) (next : UInt8) : Prop where
  opens : Opens piece opened
  accepts : opened.Accepts next
  begins : ∀ byte, opened.Accepts byte → Begins (piece ++ [byte])

theorem exists_opensAs_two (above : 0x80 ≤ v) (below : v < 0x800) :
    ∃ opened, OpensAs [.ofNat (v / 64 + 0xC0)] opened (.ofNat (v % 64 + 0x80)) := by
  exact ⟨_, opens_two above below, accepts_continuation v,
    fun _ accepts => begins_two above below accepts⟩

theorem exists_opensAs_three (above : 0x800 ≤ v) (below : v < 0x10000) (valid : v.isValidChar) :
    (∃ opened, OpensAs [.ofNat (v / 4096 + 0xE0)] opened (.ofNat (v / 64 % 64 + 0x80))) ∧
      ∃ opened, OpensAs [.ofNat (v / 4096 + 0xE0), .ofNat (v / 64 % 64 + 0x80)] opened
        (.ofNat (v % 64 + 0x80)) := by
  have opens := opens_three below
  have accepts := accepts_three above valid
  exact ⟨⟨_, opens, accepts, fun _ follows => begins_three below follows.1 follows.2⟩,
    ⟨_, opens.concat accepts, accepts_continuation v,
      fun _ follows => begins_three_last above below valid follows.1 follows.2⟩⟩

theorem exists_opensAs_four (above : 0x10000 ≤ v) (below : v < 0x110000) :
    (∃ opened, OpensAs [.ofNat (v / 262144 + 0xF0)] opened (.ofNat (v / 4096 % 64 + 0x80))) ∧
      (∃ opened, OpensAs [.ofNat (v / 262144 + 0xF0), .ofNat (v / 4096 % 64 + 0x80)] opened
        (.ofNat (v / 64 % 64 + 0x80))) ∧
      ∃ opened, OpensAs [.ofNat (v / 262144 + 0xF0), .ofNat (v / 4096 % 64 + 0x80),
        .ofNat (v / 64 % 64 + 0x80)] opened (.ofNat (v % 64 + 0x80)) := by
  have opens := opens_four below
  have accepts := accepts_four above below
  have opensTwo := opens.concat accepts
  exact ⟨⟨_, opens, accepts, fun _ follows => begins_four below follows.1 follows.2⟩,
    ⟨_, opensTwo, accepts_continuation (v / 64),
      fun _ follows => begins_four_third above below follows.1 follows.2⟩,
    ⟨_, opensTwo.concat (accepts_continuation (v / 64)), accepts_continuation v,
      fun _ follows => begins_four_last above below follows.1 follows.2⟩⟩

end

section
variable {piece more : List UInt8} {next : UInt8} {c : Char}

/-- Wherever the encoding of a character is cut, the decoder has opened a character. -/
theorem exists_opensAs (encoded : String.utf8EncodeChar c = piece ++ next :: more)
    (some : piece ≠ []) : ∃ opened, OpensAs piece opened next := by
  obtain ⟨v, rfl, small | ⟨above, below⟩ | ⟨above, below, valid⟩ | ⟨above, below⟩⟩ := char_cases c
  · rw [encode_one small] at encoded
    rcases piece with _ | ⟨a, piece⟩
    · exact absurd rfl some
    · simp at encoded
  · rw [encode_two above below] at encoded
    rcases piece with _ | ⟨a, _ | ⟨b, piece⟩⟩
    · exact absurd rfl some
    · cases encoded
      exact exists_opensAs_two above below
    · simp at encoded
  · rw [encode_three above below valid] at encoded
    obtain ⟨first, second⟩ := exists_opensAs_three above below valid
    rcases piece with _ | ⟨a, _ | ⟨b, _ | ⟨d, piece⟩⟩⟩
    · exact absurd rfl some
    · cases encoded
      exact first
    · cases encoded
      exact second
    · simp at encoded
  · rw [encode_four above below] at encoded
    obtain ⟨first, second, third⟩ := exists_opensAs_four above below
    rcases piece with _ | ⟨a, _ | ⟨b, _ | ⟨d, _ | ⟨e, piece⟩⟩⟩⟩
    · exact absurd rfl some
    · cases encoded
      exact first
    · cases encoded
      exact second
    · cases encoded
      exact third
    · simp at encoded

end

/-! ## Pieces -/

def Decoder.finish (decoder : Decoder) : List (Option Char) :=
  match decoder.opened with
  | none => decoder.units.toList
  | some _ => (decoder.units.push none).toList

theorem begins_of_lead {byte : UInt8} {opened : Partial}
    (lead : Partial.ofLead? byte.toNat = some opened) : Begins [byte] := by
  obtain two | three | four : (0xC2 ≤ byte.toNat ∧ byte.toNat ≤ 0xDF) ∨
      (0xE0 ≤ byte.toNat ∧ byte.toNat ≤ 0xEF) ∨ 0xF0 ≤ byte.toNat ∧ byte.toNat ≤ 0xF4 := by
    simp only [Partial.ofLead?, Bool.and_eq_true, decide_eq_true_eq] at lead
    split_ifs at lead <;> omega
  · refine ⟨Char.ofNat ((byte.toNat - 0xC0) * 64), ?_⟩
    have same : (byte.toNat - 0xC0) * 64 / 64 + 0xC0 = byte.toNat := by omega
    rw [encode_two (by omega) (by omega), same, UInt8.ofNat_toNat]
    exact ⟨_, rfl⟩
  · let w := max 0x800 ((byte.toNat - 0xE0) * 4096)
    have same : w / 4096 + 0xE0 = byte.toNat := by omega
    have valid : w.isValidChar := by
      show w < 0xD800 ∨ 0xDFFF < w ∧ w < 0x110000
      omega
    refine ⟨Char.ofNat w, ?_⟩
    rw [encode_three (by omega) (by omega) valid, same, UInt8.ofNat_toNat]
    exact ⟨_, rfl⟩
  · let w := max 0x10000 ((byte.toNat - 0xF0) * 262144)
    have same : w / 262144 + 0xF0 = byte.toNat := by omega
    refine ⟨Char.ofNat w, ?_⟩
    rw [encode_four (by omega) (by omega), same, UInt8.ofNat_toNat]
    exact ⟨_, rfl⟩

section
variable {piece rest : List UInt8}

theorem Undecodable.opens (undecodable : Undecodable piece rest) (begins : Begins piece) :
    ∃ opened, Opens piece opened ∧ ∀ byte, opened.Accepts byte → Begins (piece ++ [byte]) := by
  obtain ⟨c, more, encoded⟩ := begins
  cases more with
  | nil =>
    rw [List.append_nil] at encoded
    exact absurd (encoded ▸ List.prefix_append piece rest) (undecodable.unencoded c)
  | cons next more =>
    obtain ⟨opened, opens, _, goesOn⟩ := exists_opensAs encoded.symm undecodable.nonempty
    exact ⟨opened, opens, goesOn⟩

theorem pushFirst_of_not_begins {byte : UInt8} (never : ¬ Begins [byte])
    (units : Array (Option Char)) :
    Decoder.pushFirst units byte.toNat = ⟨none, units.push none⟩ := by
  have high : ¬ byte.toNat < 0x80 := by
    refine fun low => never ⟨Char.ofNat byte.toNat, ?_⟩
    rw [encode_one low, UInt8.ofNat_toNat]
  rw [Decoder.pushFirst, if_neg high]
  cases lead : Partial.ofLead? byte.toNat with
  | none => rfl
  | some opened => exact absurd (begins_of_lead lead) never

/-- A piece counts once, whatever follows. -/
theorem Undecodable.finish (undecodable : Undecodable piece rest) (units : Array (Option Char)) :
    ((piece ++ rest).foldl Decoder.push ⟨none, units⟩).finish =
      (rest.foldl Decoder.push ⟨none, units.push none⟩).finish := by
  rw [List.foldl_append]
  by_cases begins : Begins piece
  · obtain ⟨opened, opens, goesOn⟩ := undecodable.opens begins
    rw [opens units]
    cases rest with
    | nil => rfl
    | cons next rest =>
      have refuses : ¬ opened.Accepts next := by
        refine fun accepts => undecodable.longest (piece ++ [next]) ?_ ?_ (goesOn next accepts)
        · exact ⟨rest, by rw [List.append_assoc, List.singleton_append]⟩
        · rw [List.length_append]
          exact Nat.lt_succ_self _
      have closed : (decide (opened.low ≤ next.toNat) && decide (next.toNat ≤ opened.high)) = false :=
        by simpa [Partial.Accepts] using refuses
      rw [List.foldl_cons, List.foldl_cons]
      congr 2
      show (if _ then _ else _) = Decoder.pushFirst (units.push none) next.toNat
      rw [closed]
      rfl
  · obtain ⟨byte, rfl⟩ := List.length_eq_one_iff.mp (undecodable.begins.resolve_right begins)
    rw [List.foldl_cons, List.foldl_nil]
    congr 2
    exact pushFirst_of_not_begins begins units

end

/-! ## Any bytes -/

section
variable {bytes : List UInt8} {text : List Char}

theorem ReadsAs.finish (reads : ReadsAs bytes text) (units : Array (Option Char)) :
    (bytes.foldl Decoder.push ⟨none, units⟩).finish.map (·.getD '\uFFFD') =
      units.toList.map (·.getD '\uFFFD') ++ text := by
  induction reads generalizing units with
  | nil => exact (List.append_nil _).symm
  | char _ ih => rw [List.foldl_append, push_char, ih]; simp
  | replaced undecodable _ ih => rw [undecodable.finish, ih]; simp

theorem encode_ne_nil (c : Char) : String.utf8EncodeChar c ≠ [] := by
  intro none
  have one := String.length_utf8EncodeChar c
  rw [none] at one
  exact absurd one.symm (Nat.ne_of_gt (Char.utf8Size_pos c))

theorem exists_undecodable (some : bytes ≠ []) (unencoded : ∀ c, ¬ String.utf8EncodeChar c <+: bytes) :
    ∃ piece rest, bytes = piece ++ rest ∧ Undecodable piece rest := by
  classical
  let Piece (n : Nat) : Prop := n = 1 ∨ Begins (bytes.take n)
  have one : 1 ≤ bytes.length := List.length_pos_iff.mpr some
  let n := Nat.findGreatest Piece bytes.length
  have atLeast : 1 ≤ n := Nat.le_findGreatest one (.inl rfl)
  have atMost : n ≤ bytes.length := Nat.findGreatest_le _
  have length : (bytes.take n).length = n := List.length_take_of_le atMost
  refine ⟨bytes.take n, bytes.drop n, (List.take_append_drop n bytes).symm, ?_, ?_, ?_, ?_⟩
  · exact List.ne_nil_of_length_pos (by omega)
  · rw [List.take_append_drop]
    exact unencoded
  · rw [length]
    exact Nat.findGreatest_spec (P := Piece) one (.inl rfl)
  · rw [List.take_append_drop, length]
    intro longer here more begins
    rw [List.prefix_iff_eq_take.mp here] at begins
    exact Nat.findGreatest_is_greatest more here.length_le (.inr begins)

theorem exists_readsAs (bytes : List UInt8) : ∃ text, ReadsAs bytes text := by
  induction same : bytes.length using Nat.strong_induction_on generalizing bytes with
  | _ n ih =>
    subst same
    by_cases none : bytes = []
    · exact ⟨[], none ▸ .nil⟩
    by_cases encoded : ∃ c, String.utf8EncodeChar c <+: bytes
    · obtain ⟨c, rest, rfl⟩ := encoded
      have some := List.length_pos_iff.mpr (encode_ne_nil c)
      obtain ⟨text, reads⟩ := ih rest.length (by rw [List.length_append]; omega) rest rfl
      exact ⟨c :: text, .char reads⟩
    · obtain ⟨piece, rest, rfl, undecodable⟩ := exists_undecodable none (not_exists.mp encoded)
      have some := List.length_pos_iff.mpr undecodable.nonempty
      obtain ⟨text, reads⟩ := ih rest.length (by rw [List.length_append]; omega) rest rfl
      exact ⟨'\uFFFD' :: text, .replaced undecodable reads⟩

/-- Bytes are read in one way, and decoding is that way. -/
theorem readsAs_iff : ReadsAs bytes text ↔ text = decodeReplacing bytes := by
  have same {text : List Char} (reads : ReadsAs bytes text) : text = decodeReplacing bytes :=
    (reads.finish #[]).symm
  refine ⟨same, ?_⟩
  rintro rfl
  obtain ⟨text, reads⟩ := exists_readsAs bytes
  exact same reads ▸ reads

theorem ReadsAs.length_le (reads : ReadsAs bytes text) : text.length ≤ bytes.length := by
  induction reads with
  | nil => exact Nat.le_refl 0
  | @char c _ _ _ ih =>
    have some := List.length_pos_iff.mpr (encode_ne_nil c)
    rw [List.length_cons, List.length_append]
    omega
  | replaced undecodable _ ih =>
    have some := List.length_pos_iff.mpr undecodable.nonempty
    rw [List.length_cons, List.length_append]
    omega

end

end TapeLang.Text.Utf8
