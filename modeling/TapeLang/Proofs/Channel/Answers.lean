import TapeLang.Channel.Reader

/-! The answers of a reader, in their order.

Bytes in memory and the bytes of a stream are read alike: one after the other, and what is answered at
the end from then on. -/

set_option autoImplicit false

namespace TapeLang

namespace Reader

variable {ρ : Type} [Reader ρ]

def after : Nat → ρ → ρ
  | 0, reader => reader
  | n + 1, reader => after n (read reader).2

def answer (n : Nat) (reader : ρ) : Except Failure Value := (read (after n reader)).1

theorem after_succ (n : Nat) (reader : ρ) : after (n + 1) reader = (read (after n reader)).2 := by
  induction n generalizing reader with
  | zero => rfl
  | succ n ih => exact ih (read reader).2

end Reader

def answerAt (bytes : List UInt8) (atEnd : Option Value) (index : Nat) : Except Failure Value :=
  match bytes[index]? with
  | some byte => .ok (byteValue byte)
  | none => answerAtEnd atEnd

theorem StreamReader.after_eq (n : Nat) (bytes : List UInt8) (atEnd : Option Value) :
    Reader.after n (StreamReader.mk bytes atEnd) = ⟨bytes.drop n, atEnd⟩ := by
  induction n generalizing bytes with
  | zero => rfl
  | succ n ih =>
    cases bytes with
    | nil => exact (ih []).trans (by simp)
    | cons byte rest => exact ih rest

theorem StreamReader.answer_eq (n : Nat) (bytes : List UInt8) (atEnd : Option Value) :
    Reader.answer n (StreamReader.mk bytes atEnd) = answerAt bytes atEnd n := by
  rw [Reader.answer, after_eq, answerAt]
  have first : bytes[n]? = (bytes.drop n)[0]? := by simp
  rw [first]
  cases bytes.drop n <;> rfl

theorem BufferReader.after_eq (n : Nat) (bytes : List UInt8) (atEnd : Option Value) :
    Reader.after n (BufferReader.mk bytes.toArray 0 atEnd) =
      ⟨bytes.toArray, min n bytes.length, atEnd⟩ := by
  induction n with
  | zero => simp [Reader.after]
  | succ n ih =>
    rw [Reader.after_succ, ih]
    simp only [Reader.read, BufferReader.read, List.getElem?_toArray]
    by_cases inside : n < bytes.length
    · rw [Nat.min_eq_left (by omega), Nat.min_eq_left (by omega), List.getElem?_eq_getElem inside]
    · rw [Nat.min_eq_right (by omega), Nat.min_eq_right (by omega), List.getElem?_eq_none (by omega)]

theorem BufferReader.answer_eq (n : Nat) (bytes : List UInt8) (atEnd : Option Value) :
    Reader.answer n (BufferReader.mk bytes.toArray 0 atEnd) = answerAt bytes atEnd n := by
  rw [Reader.answer, after_eq, answerAt]
  simp only [Reader.read, BufferReader.read, List.getElem?_toArray]
  have same : bytes[min n bytes.length]? = bytes[n]? := by
    by_cases inside : n < bytes.length
    · rw [Nat.min_eq_left (by omega)]
    · rw [Nat.min_eq_right (by omega), List.getElem?_eq_none (Nat.le_refl _),
        List.getElem?_eq_none (by omega)]
  rw [same]
  cases bytes[n]? <;> rfl

end TapeLang
