import TapeLang.Proofs.Text.Parts
import TapeLang.Text.Utf8

/-! A text is read back from its bytes. -/

set_option autoImplicit false

namespace TapeLang.Text.Utf8

/-! ## Encodings -/

section
variable {v : Nat}

theorem toNat_ofNat_char (valid : v.isValidChar) : (Char.ofNat v).val.toNat = v := by
  rw [Char.ofNat, dif_pos valid]
  rfl

theorem encode_one (below : v < 0x80) : String.utf8EncodeChar (Char.ofNat v) = [.ofNat v] := by
  have same := toNat_ofNat_char (v := v) (.inl (by omega))
  unfold String.utf8EncodeChar
  simp only [same]
  rw [if_pos (by omega)]

theorem encode_two (above : 0x80 ≤ v) (below : v < 0x800) : String.utf8EncodeChar (Char.ofNat v) =
    [.ofNat (v / 64 + 0xC0), .ofNat (v % 64 + 0x80)] := by
  have same := toNat_ofNat_char (v := v) (.inl (by omega))
  have lead : v / 64 % 0x20 = v / 64 := by omega
  unfold String.utf8EncodeChar
  simp only [same]
  rw [if_neg (by omega), if_pos (by omega), lead]

theorem encode_three (above : 0x800 ≤ v) (below : v < 0x10000) (valid : v.isValidChar) :
    String.utf8EncodeChar (Char.ofNat v) =
      [.ofNat (v / 4096 + 0xE0), .ofNat (v / 64 % 64 + 0x80), .ofNat (v % 64 + 0x80)] := by
  have same := toNat_ofNat_char valid
  have lead : v / 4096 % 0x10 = v / 4096 := by omega
  unfold String.utf8EncodeChar
  simp only [same]
  rw [if_neg (by omega), if_neg (by omega), if_pos (by omega), lead]

theorem encode_four (above : 0x10000 ≤ v) (below : v < 0x110000) :
    String.utf8EncodeChar (Char.ofNat v) =
      [.ofNat (v / 262144 + 0xF0), .ofNat (v / 4096 % 64 + 0x80), .ofNat (v / 64 % 64 + 0x80),
        .ofNat (v % 64 + 0x80)] := by
  have same := toNat_ofNat_char (v := v) (.inr ⟨by omega, below⟩)
  have lead : v / 262144 % 0x08 = v / 262144 := by omega
  unfold String.utf8EncodeChar
  simp only [same]
  rw [if_neg (by omega), if_neg (by omega), if_neg (by omega), lead]

/-- A character by the length of its encoding. -/
theorem char_cases (c : Char) : ∃ v, c = Char.ofNat v ∧
    (v < 0x80 ∨ 0x80 ≤ v ∧ v < 0x800 ∨ 0x800 ≤ v ∧ v < 0x10000 ∧ v.isValidChar ∨
      0x10000 ≤ v ∧ v < 0x110000) := by
  have range : c.val.toNat < 0xD800 ∨ 0xDFFF < c.val.toNat ∧ c.val.toNat < 0x110000 := c.valid
  refine ⟨c.val.toNat, (Char.ofNat_toNat c).symm, ?_⟩
  have valid : c.val.toNat.isValidChar := c.valid
  simp only [valid, and_true]
  omega

end

/-! ## Opened characters -/

section
variable {byte owed low high code : Nat} {units : Array (Option Char)} {next : UInt8}

theorem Partial.ofLead?_two (above : 0xC2 ≤ byte) (below : byte ≤ 0xDF) :
    Partial.ofLead? byte = some ⟨1, 0x80, 0xBF, byte - 0xC0⟩ := by
  rw [Partial.ofLead?, if_pos (by simp [above, below])]

/-- The first byte that follows is bounded so that there is no shorter form and no surrogate. -/
theorem Partial.ofLead?_three (above : 0xE0 ≤ byte) (below : byte ≤ 0xEF) :
    Partial.ofLead? byte = some ⟨2, if byte = 0xE0 then 0xA0 else 0x80,
      if byte = 0xED then 0x9F else 0xBF, byte - 0xE0⟩ := by
  by_cases first : byte = 0xE0
  · rw [first]
    rfl
  by_cases surrogate : byte = 0xED
  · rw [surrogate]
    rfl
  have others : (decide (0xE1 ≤ byte) && decide (byte ≤ 0xEF)) = true := by
    simp only [Bool.and_eq_true, decide_eq_true_eq]
    omega
  rw [Partial.ofLead?, if_neg (by simp; omega), if_neg first, if_neg surrogate, if_pos others,
    if_neg first, if_neg surrogate]

/-- The first byte that follows is bounded so that there is no shorter form and nothing past the last
character. -/
theorem Partial.ofLead?_four (above : 0xF0 ≤ byte) (below : byte ≤ 0xF4) :
    Partial.ofLead? byte = some ⟨3, if byte = 0xF0 then 0x90 else 0x80,
      if byte = 0xF4 then 0x8F else 0xBF, byte - 0xF0⟩ := by
  have lead : byte = 0xF0 ∨ byte = 0xF1 ∨ byte = 0xF2 ∨ byte = 0xF3 ∨ byte = 0xF4 := by omega
  rcases lead with rfl | rfl | rfl | rfl | rfl <;> rfl

theorem push_lead (opened : Partial) (lead : Partial.ofLead? next.toNat = some opened)
    (wide : 0x80 ≤ next.toNat) : Decoder.push ⟨none, units⟩ next = ⟨some opened, units⟩ := by
  show Decoder.pushFirst units next.toNat = _
  rw [Decoder.pushFirst, if_neg (Nat.not_lt_of_le wide), lead]

theorem push_next (above : low ≤ next.toNat) (below : next.toNat ≤ high) :
    Decoder.push ⟨some ⟨owed + 2, low, high, code⟩, units⟩ next =
      ⟨some ⟨owed + 1, 0x80, 0xBF, code * 64 + next.toNat % 64⟩, units⟩ := by
  simp [Decoder.push, above, below]

theorem push_last (above : low ≤ next.toNat) (below : next.toNat ≤ high) :
    Decoder.push ⟨some ⟨1, low, high, code⟩, units⟩ next =
      ⟨none, units.push (some (Char.ofNat (code * 64 + next.toNat % 64)))⟩ := by
  simp [Decoder.push, above, below]

theorem toNat_byte {n : Nat} (small : n < 256) : (UInt8.ofNat n).toNat = n := by
  rw [UInt8.toNat_ofNat', Nat.mod_eq_of_lt small]

end

def Partial.Accepts (opened : Partial) (byte : UInt8) : Prop :=
  opened.low ≤ byte.toNat ∧ byte.toNat ≤ opened.high

/-- Whether a decoder that has not opened anything opens a character with some bytes. -/
def Opens (piece : List UInt8) (opened : Partial) : Prop :=
  ∀ units, piece.foldl Decoder.push ⟨none, units⟩ = ⟨some opened, units⟩

theorem ofNat_continuation {byte : UInt8} (above : 0x80 ≤ byte.toNat) (below : byte.toNat ≤ 0xBF) :
    UInt8.ofNat (byte.toNat % 64 + 0x80) = byte := by
  have same : byte.toNat % 64 + 0x80 = byte.toNat := by omega
  rw [same, UInt8.ofNat_toNat]

section
variable {v : Nat}

theorem opens_two (above : 0x80 ≤ v) (below : v < 0x800) :
    Opens [.ofNat (v / 64 + 0xC0)] ⟨1, 0x80, 0xBF, v / 64⟩ := by
  intro units
  have byte := toNat_byte (n := v / 64 + 0xC0) (by omega)
  rw [List.foldl_cons, push_lead _ (Partial.ofLead?_two (by omega) (by omega)) (by omega), byte]
  rw [Nat.add_sub_cancel]
  rfl

theorem opens_three (below : v < 0x10000) :
    Opens [.ofNat (v / 4096 + 0xE0)] ⟨2, if v / 4096 + 0xE0 = 0xE0 then 0xA0 else 0x80,
      if v / 4096 + 0xE0 = 0xED then 0x9F else 0xBF, v / 4096⟩ := by
  intro units
  have byte := toNat_byte (n := v / 4096 + 0xE0) (by omega)
  rw [List.foldl_cons, push_lead _ (Partial.ofLead?_three (by omega) (by omega)) (by omega), byte,
    Nat.add_sub_cancel]
  rfl

theorem opens_four (below : v < 0x110000) :
    Opens [.ofNat (v / 262144 + 0xF0)] ⟨3, if v / 262144 + 0xF0 = 0xF0 then 0x90 else 0x80,
      if v / 262144 + 0xF0 = 0xF4 then 0x8F else 0xBF, v / 262144⟩ := by
  intro units
  have byte := toNat_byte (n := v / 262144 + 0xF0) (by omega)
  rw [List.foldl_cons, push_lead _ (Partial.ofLead?_four (by omega) (by omega)) (by omega), byte,
    Nat.add_sub_cancel]
  rfl

/-- A byte that may follow, but does not end the character, leaves it opened. -/
theorem Opens.concat {piece : List UInt8} {owed low high code : Nat} {next : UInt8}
    (opens : Opens piece ⟨owed + 2, low, high, code⟩)
    (accepts : Partial.Accepts ⟨owed + 2, low, high, code⟩ next) :
    Opens (piece ++ [next]) ⟨owed + 1, 0x80, 0xBF, code * 64 + next.toNat % 64⟩ := by
  intro units
  rw [List.foldl_append, opens units]
  exact push_next accepts.1 accepts.2

/-- The last byte that may follow ends the character. -/
theorem Opens.last {piece : List UInt8} {low high code : Nat} {next : UInt8}
    (opens : Opens piece ⟨1, low, high, code⟩) (accepts : Partial.Accepts ⟨1, low, high, code⟩ next)
    (units : Array (Option Char)) :
    (piece ++ [next]).foldl Decoder.push ⟨none, units⟩ =
      ⟨none, units.push (some (Char.ofNat (code * 64 + next.toNat % 64)))⟩ := by
  rw [List.foldl_append, opens units]
  exact push_last accepts.1 accepts.2

theorem accepts_continuation {owed code : Nat} (n : Nat) :
    Partial.Accepts ⟨owed, 0x80, 0xBF, code⟩ (.ofNat (n % 64 + 0x80)) := by
  have byte := toNat_byte (n := n % 64 + 0x80) (by omega)
  constructor <;> dsimp only <;> omega

theorem accepts_three (above : 0x800 ≤ v) (valid : v.isValidChar) :
    Partial.Accepts ⟨2, if v / 4096 + 0xE0 = 0xE0 then 0xA0 else 0x80,
      if v / 4096 + 0xE0 = 0xED then 0x9F else 0xBF, v / 4096⟩ (.ofNat (v / 64 % 64 + 0x80)) := by
  have limits : v < 0xD800 ∨ 0xDFFF < v ∧ v < 0x110000 := valid
  have byte := toNat_byte (n := v / 64 % 64 + 0x80) (by omega)
  constructor <;> dsimp only <;> split <;> omega

theorem accepts_four (above : 0x10000 ≤ v) (below : v < 0x110000) :
    Partial.Accepts ⟨3, if v / 262144 + 0xF0 = 0xF0 then 0x90 else 0x80,
      if v / 262144 + 0xF0 = 0xF4 then 0x8F else 0xBF, v / 262144⟩
      (.ofNat (v / 4096 % 64 + 0x80)) := by
  have byte := toNat_byte (n := v / 4096 % 64 + 0x80) (by omega)
  constructor <;> dsimp only <;> split <;> omega

theorem toNat_continuation (n : Nat) : (UInt8.ofNat (n % 64 + 0x80)).toNat % 64 = n % 64 := by
  rw [toNat_byte (by omega)]
  omega

-- Numbers of characters are taken apart in groups of six bits, the lowest last.
theorem push_char (c : Char) (units : Array (Option Char)) :
    (String.utf8EncodeChar c).foldl Decoder.push ⟨none, units⟩ = ⟨none, units.push (some c)⟩ := by
  obtain ⟨v, rfl, small | ⟨above, below⟩ | ⟨above, below, valid⟩ | ⟨above, below⟩⟩ := char_cases c
  · have byte := toNat_byte (n := v) (by omega)
    rw [encode_one small, List.foldl_cons, Decoder.push, Decoder.pushFirst, byte, if_pos small]
    rfl
  · have closed := (opens_two above below).last (accepts_continuation v) units
    have value : v / 64 * 64 + v % 64 = v := by omega
    rw [toNat_continuation, value] at closed
    rw [encode_two above below]
    exact closed
  · have second := (opens_three below).concat (accepts_three above valid)
    have closed := second.last (accepts_continuation v) units
    have value : (v / 4096 * 64 + v / 64 % 64) * 64 + v % 64 = v := by omega
    rw [toNat_continuation, toNat_continuation, value] at closed
    rw [encode_three above below valid]
    exact closed
  · have second := (opens_four below).concat (accepts_four above below)
    have third := second.concat (accepts_continuation (v / 64))
    have closed := third.last (accepts_continuation v) units
    have value : ((v / 262144 * 64 + v / 4096 % 64) * 64 + v / 64 % 64) * 64 + v % 64 = v := by omega
    rw [toNat_continuation, toNat_continuation, toNat_continuation, value] at closed
    rw [encode_four above below]
    exact closed

end

/-! ## A text -/

-- The bytes are listed by a loop over their indices.
theorem toList_loop (bytes : ByteArray) (i : Nat) (listed : List UInt8) :
    ByteArray.toList.loop bytes i listed = listed.reverse ++ bytes.data.toList.drop i := by
  fun_induction ByteArray.toList.loop bytes i listed with
  | case1 i listed inside ih =>
    have bound : i < bytes.data.toList.length := inside
    have byte : bytes.get! i = bytes.data.toList[i] := getElem!_pos bytes.data i inside
    rw [ih, List.drop_eq_getElem_cons bound, List.reverse_cons, List.append_assoc, byte]
    rfl
  | case2 i listed outside =>
    rw [List.drop_eq_nil_of_le (Nat.le_of_not_lt outside), List.append_nil]

theorem encode_eq (s : String) : encode s = s.toList.flatMap String.utf8EncodeChar := by
  have bytes : s.toByteArray = (s.toList.flatMap String.utf8EncodeChar).toByteArray := by
    rw [← String.ofList_toList (s := s), String.toByteArray_ofList, String.toList_ofList]
    rfl
  rw [encode, String.toUTF8_eq_toByteArray, bytes, ByteArray.toList, toList_loop, List.drop_zero,
    List.toList_data_toByteArray]
  rfl

theorem push_chars (cs : List Char) (units : Array (Option Char)) :
    (cs.flatMap String.utf8EncodeChar).foldl Decoder.push ⟨none, units⟩ =
      ⟨none, units ++ (cs.map some).toArray⟩ := by
  induction cs generalizing units with
  | nil => simp
  | cons c cs ih => simp [List.flatMap_cons, push_char, ih]

/-- A text is decoded from the bytes that it is encoded as. -/
theorem decode?_encode (s : String) : decode? (encode s) = some s.toList := by
  have characters : (s.toList.map some).mapM id = some (s.toList.map id) :=
    @mapM_map_read _ _ _ some id id (fun _ => rfl) s.toList
  rw [List.map_id] at characters
  rw [decode?, units, encode_eq, push_chars]
  simpa only [Array.empty_append] using characters

end TapeLang.Text.Utf8
