import Mathlib.Data.List.Basic
import TapeLang.Text.Case

/-! Endings in letters of either case.

Lower case is written character by character, so an ending of letters that only their own capitals
are mapped to can be followed back to the end of the text. -/

set_option autoImplicit false

namespace TapeLang.Text

inductive Lowers : Char → List Char → Prop where
  | dotted : Lowers 'İ' ['i', '\u0307']
  | sigma : Lowers 'Σ' ['σ']
  | final : Lowers 'Σ' ['ς']
  | single (c : Char) : Lowers c [lowerChar c]

inductive LowersAll : List Char → List Char → Prop where
  | nil : LowersAll [] []
  | cons {c : Char} {written cs lowered : List Char} : Lowers c written → LowersAll cs lowered →
      LowersAll (c :: cs) (written ++ lowered)

section
variable {c d : Char} {before cs rest lowered front : List Char}

theorem lowersAll_lowerFrom (before cs : List Char) : LowersAll cs (lowerFrom before cs) := by
  induction cs generalizing before with
  | nil => exact .nil
  | cons c cs ih =>
    rw [lowerFrom]
    refine .cons ?_ (ih (c :: before))
    split
    · rename_i dotted
      exact dotted ▸ .dotted
    split
    · rename_i sigma
      subst sigma
      split
      · exact .final
      · exact .sigma
    · exact .single c

theorem LowersAll.concat (all : LowersAll (cs ++ [c]) lowered) :
    ∃ front written, LowersAll cs front ∧ Lowers c written ∧ lowered = front ++ written := by
  induction cs generalizing lowered with
  | nil =>
    cases all with
    | @cons _ written _ _ one none =>
      cases none
      exact ⟨[], written, .nil, one, List.append_nil written⟩
  | cons first cs ih =>
    cases all with
    | cons one others =>
      obtain ⟨front, written, isFront, last, rfl⟩ := ih others
      exact ⟨_, written, .cons one isFront, last, (List.append_assoc ..).symm⟩

/-- Characters that nothing but a single character ends as. -/
def IsSimple (d : Char) : Prop := d ≠ '\u0307' ∧ d ≠ 'σ' ∧ d ≠ 'ς'

/-- The last character of what a text becomes is followed back to the last one of the text. -/
theorem LowersAll.last (all : LowersAll cs (front ++ [d])) (simple : IsSimple d) :
    ∃ stem c, cs = stem ++ [c] ∧ lowerChar c = d ∧ LowersAll stem front := by
  rcases List.eq_nil_or_concat' cs with rfl | ⟨stem, c, rfl⟩
  · generalize written : front ++ [d] = lowered at all
    cases all
    exact absurd written (by simp)
  · obtain ⟨start, written, isFront, last, same⟩ := all.concat
    cases last with
    | dotted =>
      have mark : start ++ ['i'] ++ ['\u0307'] = front ++ [d] := by simp [same]
      exact absurd (List.append_singleton_inj.mp mark).2.symm simple.1
    | sigma => exact absurd (List.append_singleton_inj.mp same).2 simple.2.1
    | final => exact absurd (List.append_singleton_inj.mp same).2 simple.2.2
    | single =>
      obtain ⟨rfl, rfl⟩ := List.append_singleton_inj.mp same
      exact ⟨stem, c, rfl, rfl, isFront⟩

/-! ## Letters -/

theorem exists_run (lowers : lowerChar c = d) :
    c = d ∨ ∃ run ∈ lowerRuns, run.covers c.toNat ∧ Char.ofNat (c.toNat + run.shift).toNat = d := by
  unfold lowerChar at lowers
  split at lowers
  · rename_i run found
    exact .inr ⟨run, List.mem_of_find?_eq_some found, by simpa using List.find?_some found, lowers⟩
  · exact .inl lowers

def endingLetters : List (Char × Char) := [('.', '.'), ('b', 'B'), ('f', 'F'), ('x', 'X')]

-- The table has one capital for each letter, and none for the dot.
theorem covers_endingLetters : ∀ pair ∈ endingLetters, ∀ run ∈ lowerRuns,
    run.covers (pair.1.toNat - run.shift).toNat → (pair.1.toNat - run.shift).toNat = pair.2.toNat := by
  decide +kernel

theorem lowerChar_endingLetters : ∀ pair ∈ endingLetters,
    lowerChar pair.1 = pair.1 ∧ lowerChar pair.2 = pair.1 := by
  decide +kernel

theorem simple_endingLetters : ∀ pair ∈ endingLetters, 0 < pair.1.toNat ∧ IsSimple pair.1 := by
  unfold IsSimple
  decide

theorem lowerChar_eq_iff (pair : (d, c) ∈ endingLetters) {e : Char} :
    lowerChar e = d ↔ e = d ∨ e = c := by
  constructor
  · intro lowers
    rcases exists_run lowers with same | ⟨run, listed, covered, moved⟩
    · exact .inl same
    · have positive := (simple_endingLetters (d, c) pair).1
      have code : (e.toNat + run.shift).toNat = d.toNat := by
        by_cases valid : (e.toNat + run.shift).toNat.isValidChar
        · rw [Char.ofNat, dif_pos valid] at moved
          exact congrArg Char.toNat moved
        · rw [Char.ofNat, dif_neg valid] at moved
          rw [← moved] at positive
          exact absurd positive (Nat.lt_irrefl 0)
      have capital := covers_endingLetters (d, c) pair run listed
      have place : (d.toNat - run.shift).toNat = e.toNat := by
        have isPositive : 0 < d.toNat := positive
        omega
      rw [place] at capital
      exact .inr (Char.toNat_inj.mp (capital covered))
  · rintro (rfl | rfl)
    · exact (lowerChar_endingLetters _ pair).1
    · exact (lowerChar_endingLetters _ pair).2

theorem exists_lowerFrom_append (before cs rest : List Char) : ∃ front later,
    lowerFrom before (cs ++ rest) = front ++ lowerFrom later rest := by
  induction cs generalizing before with
  | nil => exact ⟨[], before, rfl⟩
  | cons c cs ih =>
    obtain ⟨front, later, same⟩ := ih (c :: before)
    exact ⟨_, later, by rw [List.cons_append, lowerFrom, same, ← List.append_assoc]⟩

/-- A text that ends in a dot and three letters, each of them small or capital. -/
def EndsInLetters (path : List Char) : Prop :=
  ∃ stem b f x, path = stem ++ ['.', b, f, x] ∧ (b = 'b' ∨ b = 'B') ∧ (f = 'f' ∨ f = 'F') ∧
    (x = 'x' ∨ x = 'X')

theorem lowerFrom_letters (before : List Char) {b f x : Char} (isB : b = 'b' ∨ b = 'B')
    (isF : f = 'f' ∨ f = 'F') (isX : x = 'x' ∨ x = 'X') :
    lowerFrom before ['.', b, f, x] = ['.', 'b', 'f', 'x'] := by
  have dot := (lowerChar_eq_iff (d := '.') (c := '.') (by decide)).mpr (.inl rfl)
  have first := (lowerChar_eq_iff (by decide)).mpr isB
  have second := (lowerChar_eq_iff (by decide)).mpr isF
  have third := (lowerChar_eq_iff (by decide)).mpr isX
  rcases isB with rfl | rfl <;> rcases isF with rfl | rfl <;> rcases isX with rfl | rfl <;>
    simp [lowerFrom, dot, first, second, third]

/-- The ending is told in lower case. -/
theorem isSuffixOf_lowerFrom (path : List Char) :
    ".bfx".toList.isSuffixOf (lowerFrom [] path) ↔ EndsInLetters path := by
  rw [List.isSuffixOf_iff_suffix]
  constructor
  · rintro ⟨front, ends⟩
    have all := lowersAll_lowerFrom [] path
    have spelled : lowerFrom [] path = front ++ ['.'] ++ ['b'] ++ ['f'] ++ ['x'] := by
      rw [← ends]
      simp
    rw [spelled] at all
    obtain ⟨stem, x, rfl, isX, all⟩ := all.last (simple_endingLetters ('x', 'X') (by decide)).2
    obtain ⟨stem, f, rfl, isF, all⟩ := all.last (simple_endingLetters ('f', 'F') (by decide)).2
    obtain ⟨stem, b, rfl, isB, all⟩ := all.last (simple_endingLetters ('b', 'B') (by decide)).2
    obtain ⟨stem, dot, rfl, isDot, -⟩ := all.last (simple_endingLetters ('.', '.') (by decide)).2
    have same : dot = '.' :=
      ((lowerChar_eq_iff (d := '.') (c := '.') (by decide)).mp isDot).elim id id
    refine ⟨stem, b, f, x, by simp [same], ?_, ?_, ?_⟩
    · exact (lowerChar_eq_iff (by decide)).mp isB
    · exact (lowerChar_eq_iff (by decide)).mp isF
    · exact (lowerChar_eq_iff (by decide)).mp isX
  · rintro ⟨stem, b, f, x, rfl, isB, isF, isX⟩
    obtain ⟨front, later, same⟩ := exists_lowerFrom_append [] stem ['.', b, f, x]
    rw [same, lowerFrom_letters later isB isF isX]
    exact ⟨front, by simp⟩

end

end TapeLang.Text
