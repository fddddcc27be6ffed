import Mathlib.Algebra.Group.Int.Defs
import Mathlib.Algebra.Group.Nat.Defs
import TapeLang.Decimal.Padded
import TapeLang.Failure

/-! What decimal numerals are made of. -/

set_option autoImplicit false

namespace TapeLang

namespace Decimal

variable {n width : Nat} {c : Char}

def IsNumeral (c : Char) : Prop := c = '-' ∨ c.isDigit

instance : Decidable (IsNumeral c) := inferInstanceAs (Decidable (_ ∨ _))

theorem isDigit_of_mem_repr (there : c ∈ n.repr.toList) : c.isDigit := by
  rw [Nat.toList_repr] at there
  exact Nat.isDigit_of_mem_toDigits (by decide) (by decide) there

theorem toList_padded :
    (padded width n).toList = List.replicate (width - n.repr.length) '0' ++ n.repr.toList := by
  rw [padded, Nat.toString_eq_repr, String.toList_append, String.toList_ofList]

theorem isDigit_of_mem_padded (there : c ∈ (padded width n).toList) : c.isDigit := by
  rw [toList_padded, List.mem_append] at there
  cases there with
  | inl zero =>
    rw [List.eq_of_mem_replicate zero]
    rfl
  | inr digit => exact isDigit_of_mem_repr digit

theorem isNumeral_of_mem_repr {n : Int} (there : c ∈ n.repr.toList) : IsNumeral c := by
  rw [Int.repr_eq_if] at there
  split at there
  · exact .inr (isDigit_of_mem_repr there)
  · rw [String.toList_append, List.mem_append] at there
    cases there with
    | inl sign => exact .inl (List.mem_singleton.mp sign)
    | inr digit => exact .inr (isDigit_of_mem_repr digit)

/-! Numbers that can be written out. -/

theorem writable_iff {n : Int} : Writable n ↔ n.natAbs < 10 ^ maxDigits :=
  Nat.length_toDigits_le_iff (by decide) (by decide)

theorem writable_of_lt {n : Int} {k : Nat} (small : n.natAbs < 10 ^ k) (few : k ≤ maxDigits) :
    Writable n :=
  writable_iff.mpr (Nat.lt_of_lt_of_le small (Nat.pow_le_pow_right (by decide) few))

/-- The first number that is too long. -/
theorem not_writable_pow : ¬ Writable (10 ^ maxDigits) := by
  have same : Int.natAbs 10 = 10 := rfl
  rw [writable_iff, Int.natAbs_pow, same]
  exact Nat.lt_irrefl _

theorem writable_neg {n : Int} : Writable (-n) ↔ Writable n := by
  rw [Writable, Writable, Int.natAbs_neg]

theorem numeral_of_not_writable {n : Int} (tooLong : ¬ Writable n) : numeral n = .error .tooManyDigits :=
  if_neg tooLong

theorem numeral_of_writable {n : Int} (writable : Writable n) : numeral n = .ok (toString n) :=
  if_pos writable

theorem showing_eq_ok {α : Type} {numbers : List Int} {shown found : α} :
    showing numbers shown = .ok found ↔ (∀ n ∈ numbers, Writable n) ∧ found = shown := by
  unfold showing
  split
  · exact ⟨fun same => ⟨‹_›, (Except.ok.inj same).symm⟩, fun ⟨_, same⟩ => same ▸ rfl⟩
  · exact ⟨nofun, fun ⟨writable, _⟩ => absurd writable ‹_›⟩

theorem numeral_eq_showing (n : Int) : numeral n = showing [n] (toString n) := by
  simp [numeral, showing]

-- What goes on from something that is shown has to go on from that only.
theorem showing_bind {α β : Type} {first rest : List Int} {shown : α} {found : β}
    {next : α → Except Unwritable β} (goesOn : next shown = showing rest found) :
    (showing first shown >>= next) = showing (first ++ rest) found := by
  by_cases writable : ∀ n ∈ first, Writable n
  · have done : showing first shown = .ok shown := if_pos writable
    rw [done]
    have same : (∀ n ∈ first ++ rest, Writable n) ↔ ∀ n ∈ rest, Writable n :=
      List.forall_mem_append.trans (and_iff_right writable)
    refine goesOn.trans ?_
    simp only [showing, same]
  · have fails : ¬ ∀ n ∈ first ++ rest, Writable n := fun all =>
      writable (List.forall_mem_append.mp all).1
    rw [showing, showing, if_neg writable, if_neg fails]
    rfl

theorem showing_map {α β : Type} {numbers : List Int} (shown : α) (f : α → β) :
    (showing numbers shown >>= fun x => pure (f x)) = showing numbers (f shown) := by
  rw [showing, showing]
  split <;> rfl

/-- A character that no numeral has. -/
theorem not_mem_repr (other : ¬ IsNumeral c) (n : Int) : c ∉ n.repr.toList :=
  fun there => other (isNumeral_of_mem_repr there)

end Decimal

theorem Failure.showing_bind {α β : Type} {first rest : List Int} {shown : α} {found : β}
    {next : α → Except Failure β}
    (goesOn : next shown = ofWriting (Decimal.showing rest found)) :
    (ofWriting (Decimal.showing first shown) >>= next) =
      ofWriting (Decimal.showing (first ++ rest) found) := by
  have joined : (Decimal.showing first shown >>= fun _ => Decimal.showing rest found) =
      Decimal.showing (first ++ rest) found := Decimal.showing_bind rfl
  rw [← joined]
  by_cases writable : ∀ n ∈ first, Decimal.Writable n
  · rw [show Decimal.showing first shown = .ok shown from if_pos writable]
    exact goesOn
  · rw [show Decimal.showing first shown = .error .tooManyDigits from if_neg writable]
    rfl

theorem Failure.showing_map {α β : Type} {numbers : List Int} (shown : α) (f : α → β) :
    (ofWriting (Decimal.showing numbers shown) >>= fun x => pure (f x)) =
      ofWriting (Decimal.showing numbers (f shown)) := by
  rw [Decimal.showing, Decimal.showing]
  split <;> rfl

theorem Failure.ofWriting_showing_eq_ok {α : Type} {numbers : List Int} {shown found : α} :
    ofWriting (Decimal.showing numbers shown) = .ok found ↔
      (∀ n ∈ numbers, Decimal.Writable n) ∧ found = shown := by
  rw [← Decimal.showing_eq_ok]
  cases Decimal.showing numbers shown <;> simp [ofWriting]

theorem Failure.ofWriting_showing_of_not {α : Type} {numbers : List Int} {shown : α}
    (tooLong : ¬ ∀ n ∈ numbers, Decimal.Writable n) :
    ofWriting (Decimal.showing numbers shown) = .error (.unwritable .tooManyDigits) :=
  congrArg ofWriting (if_neg tooLong)

end TapeLang
