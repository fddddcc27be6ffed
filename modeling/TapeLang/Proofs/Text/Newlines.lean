import TapeLang.Text.Lines

/-! Texts with every line end spelled in one way. -/

set_option autoImplicit false

namespace TapeLang.Text

variable {cs text rest : List Char} {c : Char}

/-- A text, and the text with a line feed for each of its line ends. -/
inductive Unifies : List Char → List Char → Prop where
  | nil : Unifies [] []
  | both {rest text : List Char} : Unifies rest text → Unifies ('\r' :: '\n' :: rest) ('\n' :: text)
  | carriage {rest text : List Char} : rest.head? ≠ some '\n' → Unifies rest text →
      Unifies ('\r' :: rest) ('\n' :: text)
  | other {c : Char} {rest text : List Char} : c ≠ '\r' → Unifies rest text →
      Unifies (c :: rest) (c :: text)

def unified (afterReturn : Bool) : List Char → List Char
  | [] => []
  | c :: rest =>
    if c = '\r' then '\n' :: unified true rest
    else if c = '\n' && afterReturn then unified false rest
    else c :: unified false rest

theorem foldl_push (reader : NewlineReader) (cs : List Char) :
    (cs.foldl NewlineReader.push reader).written.toList =
      reader.written.toList ++ unified reader.afterReturn cs := by
  induction cs generalizing reader with
  | nil => simp [unified]
  | cons c cs ih =>
    rw [List.foldl_cons, ih, unified, NewlineReader.push]
    split
    · simp
    split <;> simp

theorem unifyNewlines_eq (cs : List Char) : unifyNewlines cs = unified false cs :=
  (foldl_push {} cs).trans (List.nil_append _)

theorem unified_carriage (flag : Bool) (rest : List Char) :
    unified flag ('\r' :: rest) = '\n' :: unified true rest := by
  rw [unified, if_pos rfl]

theorem unified_other (no : c ≠ '\r') (rest : List Char) :
    unified false (c :: rest) = c :: unified false rest := by
  rw [unified, if_neg no, if_neg (by simp)]

theorem unified_feed (rest : List Char) : unified true ('\n' :: rest) = unified false rest := by
  rw [unified, if_neg (by decide), if_pos (by simp)]

-- Only a line feed is read differently after a carriage return.
theorem unified_true (no : cs.head? ≠ some '\n') : unified true cs = unified false cs := by
  cases cs with
  | nil => rfl
  | cons c cs =>
    have other : c ≠ '\n' := fun same => no (congrArg some same)
    simp [unified, other]

theorem Unifies.eq (unifies : Unifies cs text) : text = unified false cs := by
  induction unifies with
  | nil => rfl
  | both _ ih => rw [unified_carriage, unified_feed, ih]
  | carriage alone _ ih => rw [unified_carriage, unified_true alone, ih]
  | other no _ ih => rw [unified_other no, ih]

-- A carriage return waits for the character that follows it.
theorem unifies_unified (cs : List Char) :
    Unifies cs (unified false cs) ∧ Unifies ('\r' :: cs) ('\n' :: unified true cs) := by
  induction cs with
  | nil => exact ⟨.nil, .carriage nofun .nil⟩
  | cons c cs ih =>
    have here : Unifies (c :: cs) (unified false (c :: cs)) := by
      by_cases carriage : c = '\r'
      · rw [carriage, unified_carriage]
        exact ih.2
      · rw [unified_other carriage]
        exact .other carriage ih.1
    refine ⟨here, ?_⟩
    by_cases feed : c = '\n'
    · rw [feed, unified_feed]
      exact .both ih.1
    · have alone : (c :: cs).head? ≠ some '\n' := fun same => feed (Option.some.inj same)
      rw [unified_true alone]
      exact .carriage alone here

theorem unifies_iff : Unifies cs text ↔ text = unifyNewlines cs := by
  rw [unifyNewlines_eq]
  refine ⟨Unifies.eq, ?_⟩
  rintro rfl
  exact (unifies_unified cs).1

theorem Unifies.length_le (unifies : Unifies cs text) : text.length ≤ cs.length := by
  induction unifies with
  | nil => exact Nat.le_refl 0
  | both _ ih => exact Nat.succ_le_succ (Nat.le_succ_of_le ih)
  | carriage _ _ ih | other _ _ ih => exact Nat.succ_le_succ ih

end TapeLang.Text
