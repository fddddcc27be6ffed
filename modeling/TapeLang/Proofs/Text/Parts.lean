import Mathlib.Data.List.TakeWhile
import TapeLang.Text.Split

/-! Texts that are put together from parts, and finding the parts again.

A separator that no part has shows where one part ends and the next one starts. -/

set_option autoImplicit false

namespace TapeLang.Text

section
variable {α : Type} [DecidableEq α] {separator : α} {part other rest more : List α}

theorem append_separator_inj (free : separator ∉ part) (freeToo : separator ∉ other) :
    part ++ separator :: rest = other ++ separator :: more ↔ part = other ∧ rest = more := by
  refine ⟨fun same => ?_, fun ⟨parts, rests⟩ => parts ▸ rests ▸ rfl⟩
  have parts := congrArg (fun text => (text.splitOn separator).head?) same
  simp only [List.splitOn_append_cons_self_of_not_mem free,
    List.splitOn_append_cons_self_of_not_mem freeToo, List.head?_cons, Option.some.injEq] at parts
  subst parts
  exact ⟨rfl, (List.cons.inj (List.append_cancel_left same)).2⟩

end

section
variable {parts lines others : List String}

/-- The parts of a text that is put together from parts. -/
theorem splitOn_intercalate (separator : Char) (some : parts ≠ [])
    (whole : ∀ part ∈ parts, separator ∉ part.toList) :
    ((String.singleton separator).intercalate parts).toList.splitOn separator =
      parts.map String.toList := by
  rw [String.toList_intercalate, String.toList_singleton]
  refine List.splitOn_intercalate separator ?_ (mt List.map_eq_nil_iff.mp some)
  intro chars there
  obtain ⟨part, listed, rfl⟩ := List.mem_map.mp there
  exact whole part listed

def IsLine (line : String) : Prop := line ≠ "" ∧ '\n' ∉ line.toList

end

/-! ## Reading parts one by one -/

theorem mapM_map_read {α β γ : Type} {write : α → γ} {read? : γ → Option β} {note : α → β}
    (reads : ∀ x, read? (write x) = some (note x)) (xs : List α) :
    (xs.map write).mapM read? = some (xs.map note) := by
  rw [List.mapM_map (m := Option)]
  simp only [Function.comp_def, reads]
  exact List.mapM_pure (m := Option) ..

/-! ## Cutting at a character -/

section
variable {separator : Char} {cs part rest : List Char} {parts : List (List Char)}

theorem splitAt_eq_splitOn (separator : Char) (cs : List Char) :
    splitAt separator cs = cs.splitOn separator := by
  induction cs with
  | nil => rfl
  | cons c cs ih =>
    rw [splitAt, List.splitOn_cons_eq_if_modifyHead, ih]
    split <;> split <;> simp_all

theorem joinWith_eq_intercalate (separator : Char) (parts : List (List Char)) :
    joinWith separator parts = [separator].intercalate parts := by
  induction parts with
  | nil => rfl
  | cons part parts ih =>
    cases parts with
    | nil => simp [joinWith]
    | cons next more => rw [joinWith_cons _ _ (List.cons_ne_nil next more), ih]; simp

theorem splitAt_append (separator : Char) (cs rest : List Char) :
    splitAt separator (cs ++ separator :: rest) =
      splitAt separator cs ++ splitAt separator rest := by
  simp only [splitAt_eq_splitOn, List.splitOn_append_cons_self]

theorem splitAt_joinWith (some : parts ≠ []) (whole : ∀ part ∈ parts, separator ∉ part) :
    splitAt separator (joinWith separator parts) = parts := by
  rw [splitAt_eq_splitOn, joinWith_eq_intercalate, List.splitOn_intercalate separator whole some]

theorem not_mem_of_mem_splitAt (there : part ∈ splitAt separator cs) : separator ∉ part := by
  induction cs generalizing part with
  | nil =>
    rw [List.mem_singleton.mp there]
    exact List.not_mem_nil
  | cons c cs ih =>
    rw [splitAt] at there
    split at there
    · cases there with
      | head => exact List.not_mem_nil
      | tail _ there => exact ih there
    · rename_i other
      split at there
      · rename_i none
        exact absurd none (splitAt_ne_nil separator cs)
      · rename_i first parts split
        cases there with
        | head =>
          have rest := ih (split ▸ List.mem_cons_self)
          exact fun there => (List.mem_cons.mp there).elim (fun same => other same.symm) rest
        | tail _ there => exact ih (split ▸ List.mem_cons_of_mem _ there)

theorem exists_last (there : separator ∈ cs) :
    ∃ front last, cs = front ++ separator :: last ∧ separator ∉ last := by
  obtain ⟨last, front, split, whole⟩ := List.eq_append_cons_of_mem (List.mem_reverse.mpr there)
  refine ⟨front.reverse, last.reverse, ?_, by simpa using whole⟩
  rw [← List.reverse_reverse cs, split]
  simp

theorem before_of_not_mem (whole : separator ∉ cs) : before separator cs = cs :=
  List.takeWhile_eq_self_iff.mpr fun _ there =>
    bne_iff_ne.mpr fun same => whole (same ▸ there)

theorem before_append (separator : Char) (cs rest : List Char) :
    before separator (cs ++ separator :: rest) = before separator cs := by
  induction cs with
  | nil => exact List.takeWhile_cons_of_neg (by simp)
  | cons c cs ih =>
    simp only [before, List.cons_append, List.takeWhile_cons] at ih ⊢
    rw [ih]

theorem afterLast_append (front : List Char) (whole : separator ∉ rest) :
    afterLast separator (front ++ separator :: rest) = rest := by
  have last : before separator rest.reverse = rest.reverse :=
    before_of_not_mem (mt List.mem_reverse.mp whole)
  have reversed : (front ++ separator :: rest).reverse =
      rest.reverse ++ separator :: front.reverse := by
    simp
  rw [afterLast, reversed, ← before, before_append, last, List.reverse_reverse]

end

end TapeLang.Text
