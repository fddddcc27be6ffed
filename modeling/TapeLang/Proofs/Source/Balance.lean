import Mathlib.Data.List.Basic
import Mathlib.Data.List.Count
import Mathlib.Data.List.Induction
import Mathlib.Data.List.Infix

/-! Balance of two symbols in a sequence.

Balance is stated by counting. A sequence in which closers run ahead is cut at the first closer that
does so, and one in which openers are left over is cut at the last opener that stays open: what lies
before the one and after the other is balanced. -/

set_option autoImplicit false

namespace TapeLang

variable {α : Type} [DecidableEq α]

/-- No prefix has more closers than openers. -/
def NoExcess (opener closer : α) (l : List α) : Prop :=
  ∀ start, start <+: l → start.count closer ≤ start.count opener

/-- Every closer has an opener before it, and there are as many of the one as of the other. -/
structure Balanced (opener closer : α) (l : List α) : Prop where
  noExcess : NoExcess opener closer l
  total : l.count opener = l.count closer

/-- What follows an opener holds its closer: a closer with balance in between. -/
def HasCloser (opener closer : α) (l : List α) : Prop :=
  ∃ inner rest, l = inner ++ closer :: rest ∧ Balanced opener closer inner

instance (opener closer : α) (l : List α) : Decidable (NoExcess opener closer l) :=
  decidable_of_iff (∀ start ∈ l.inits, start.count closer ≤ start.count opener)
    (by simp only [NoExcess, List.mem_inits])

section
variable {opener closer : α} {l r : List α}

theorem NoExcess.of_append (fits : NoExcess opener closer (l ++ r)) : NoExcess opener closer l :=
  fun start before => fits start (before.trans (List.prefix_append l r))

theorem NoExcess.count_le (fits : NoExcess opener closer l) : l.count closer ≤ l.count opener :=
  fits l (List.prefix_refl l)

theorem NoExcess.nil : NoExcess opener closer [] := by
  intro start before
  rw [List.prefix_nil.mp before]
  simp

theorem Balanced.nil : Balanced opener closer [] := ⟨.nil, rfl⟩

theorem noExcess_concat {x : α} (fits : NoExcess opener closer l)
    (last : (l ++ [x]).count closer ≤ (l ++ [x]).count opener) :
    NoExcess opener closer (l ++ [x]) := by
  intro start before
  rcases List.prefix_concat_iff.mp before with rfl | inside
  · exact last
  · exact fits start inside

-- What is appended to a balanced sequence decides whether the whole is balanced.
theorem Balanced.append_iff (first : Balanced opener closer l) :
    Balanced opener closer (l ++ r) ↔ Balanced opener closer r := by
  constructor
  · rintro ⟨fits, total⟩
    refine ⟨?_, ?_⟩
    · intro start before
      have longer := fits (l ++ start) ((List.prefix_append_right_inj l).mpr before)
      simp only [List.count_append, first.total] at longer
      omega
    · simp only [List.count_append, first.total] at total
      omega
  · rintro ⟨fits, total⟩
    refine ⟨?_, by simp only [List.count_append, first.total, total]⟩
    rintro start ⟨rest, split⟩
    rcases List.append_eq_append_iff.mp split with ⟨more, inside, _⟩ | ⟨more, rfl, inside⟩
    · exact first.noExcess start ⟨more, inside.symm⟩
    -- The prefix reaches past the balanced part, which adds as many openers as closers.
    · have tail := fits more ⟨rest, inside.symm⟩
      simp only [List.count_append, first.total]
      omega

-- Symbols of neither kind do not matter.
theorem Balanced.singleton {x : α} (notOpener : x ≠ opener) (notCloser : x ≠ closer) :
    Balanced opener closer [x] := by
  have none : [x].count opener = 0 ∧ [x].count closer = 0 := by
    simp [List.count_eq_zero, notOpener.symm, notCloser.symm]
  refine ⟨noExcess_concat (l := []) .nil ?_, by omega⟩
  simp only [List.nil_append]
  omega

theorem Balanced.enclose (distinct : opener ≠ closer) (inner : Balanced opener closer l) :
    Balanced opener closer (opener :: l ++ [closer]) := by
  have total := inner.total
  refine ⟨noExcess_concat ?_ ?_, ?_⟩
  · intro start before
    rcases List.prefix_cons_iff.mp before with rfl | ⟨rest, rfl, inside⟩
    · simp
    · have := inner.noExcess rest inside
      simp only [List.count_cons_of_ne distinct, List.count_cons_self]
      omega
  all_goals
    simp only [List.count_append, List.count_cons_of_ne distinct, List.count_cons_self,
      List.count_cons_of_ne distinct.symm, List.count_nil]
    omega

-- Read backwards, openers and closers change places.
theorem Balanced.reverse (balanced : Balanced closer opener l) :
    Balanced opener closer l.reverse := by
  refine ⟨?_, by simp only [List.count_reverse, balanced.total]⟩
  rintro start ⟨rest, split⟩
  have parts : l = rest.reverse ++ start.reverse := by
    rw [← List.reverse_append, split, List.reverse_reverse]
  have ahead := balanced.noExcess rest.reverse ⟨start.reverse, parts.symm⟩
  have total := balanced.total
  simp only [parts, List.count_append, List.count_reverse] at ahead total
  omega

/-- The first closer that runs ahead comes after a balanced start. -/
theorem hasCloser_of_not_noExcess (excess : ¬ NoExcess opener closer l) :
    HasCloser opener closer l := by
  -- The last symbol is the one that runs ahead exactly if none does before it.
  induction l using List.reverseRecOn with
  | nil => exact absurd .nil excess
  | append_singleton l x ih =>
    by_cases fits : NoExcess opener closer l
    · have last : ¬ (l ++ [x]).count closer ≤ (l ++ [x]).count opener :=
        fun last => excess (noExcess_concat fits last)
      have atEnd := fits.count_le
      simp only [List.count_append, List.count_singleton] at last
      have same : x = closer := by
        by_contra other
        simp only [beq_iff_eq, other, if_false] at last
        omega
      subst same
      refine ⟨l, [], rfl, fits, ?_⟩
      simp only [beq_self_eq_true, if_true] at last
      omega
    · obtain ⟨inner, rest, rfl, balanced⟩ := ih fits
      exact ⟨inner, rest ++ [x], by simp, balanced⟩

theorem hasCloser_iff (distinct : opener ≠ closer) :
    HasCloser opener closer l ↔ ¬ NoExcess opener closer l := by
  refine ⟨?_, hasCloser_of_not_noExcess⟩
  rintro ⟨inner, rest, rfl, balanced⟩ fits
  have ahead := fits (inner ++ [closer]) ⟨rest, by simp⟩
  simp only [List.count_append, List.count_cons_self, List.count_cons_of_ne distinct.symm,
    List.count_nil, balanced.total] at ahead
  omega

/-- The last opener that stays open is followed by balance. -/
theorem exists_last_open (more : l.count closer < l.count opener) :
    ∃ before after, l = before ++ opener :: after ∧ Balanced opener closer after := by
  -- Read backwards, it is the first opener that runs ahead of the closers.
  have excess : ¬ NoExcess closer opener l.reverse := by
    intro fits
    have total := fits.count_le
    simp only [List.count_reverse] at total
    omega
  obtain ⟨inner, rest, split, balanced⟩ := hasCloser_of_not_noExcess excess
  refine ⟨rest.reverse, inner.reverse, ?_, balanced.reverse⟩
  have forward := congrArg List.reverse split
  simpa using forward

-- An opener at the head of a balanced sequence has its closer, with balance on either side.
theorem Balanced.of_opener_cons (distinct : opener ≠ closer)
    (balanced : Balanced opener closer (opener :: l)) :
    ∃ inner rest, l = inner ++ closer :: rest ∧ Balanced opener closer inner ∧
      Balanced opener closer rest := by
  have total := balanced.total
  simp only [List.count_cons_self, List.count_cons_of_ne distinct] at total
  have excess : ¬ NoExcess opener closer l := by
    intro fits
    have := fits.count_le
    omega
  obtain ⟨inner, rest, rfl, within⟩ := hasCloser_of_not_noExcess excess
  refine ⟨inner, rest, rfl, within, ?_⟩
  rw [show opener :: (inner ++ closer :: rest) = (opener :: inner ++ [closer]) ++ rest by simp]
    at balanced
  exact (within.enclose distinct).append_iff.mp balanced

-- An opener anywhere in a balanced sequence has its closer.
theorem Balanced.hasCloser_of_split (distinct : opener ≠ closer)
    (balanced : Balanced opener closer (l ++ opener :: r)) : HasCloser opener closer r := by
  apply hasCloser_of_not_noExcess
  intro fits
  have within := balanced.noExcess.of_append.count_le
  have tail := fits.count_le
  have total := balanced.total
  simp only [List.count_append, List.count_cons_self, List.count_cons_of_ne distinct] at total
  omega

theorem Balanced.not_closer_cons (distinct : opener ≠ closer) :
    ¬ Balanced opener closer (closer :: l) := by
  intro balanced
  have ahead := balanced.noExcess [closer] ⟨l, rfl⟩
  simp [List.count_cons_of_ne distinct.symm] at ahead

end

end TapeLang
