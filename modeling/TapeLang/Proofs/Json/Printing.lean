import TapeLang.Json.Printer
import TapeLang.Proofs.Decimal.Numerals
import TapeLang.Proofs.Json.Grammar

/-! What is printed with indentation is a document of the printed value, in ASCII characters. -/

set_option autoImplicit false

namespace TapeLang.Json

inductive Whole : Value → Prop where
  | null : Whole .null
  | bool (b : Bool) : Whole (.bool b)
  | int (n : Int) : Whole (.int n)
  | text (s : String) : Whole (.text s)
  | list {items : List Value} : (∀ v ∈ items, Whole v) → Whole (.list items)
  | object {members : List (String × Value)} : (∀ m ∈ members, Whole m.2) →
      Whole (.object members)

/-! ## Texts -/

section
variable {n : Nat}

theorem digit?_digit (small : n < 16) : Text.Hex.digit? (Text.Hex.digit n) = some n := by
  revert n
  decide

theorem spellsUnit_encode (small : n < 0x10000) : SpellsUnit n (Text.Hex.encode 4 n) := by
  have digits : SpellsUnit
      (n / 16 / 16 / 16 % 16 * 0x1000 + n / 16 / 16 % 16 * 0x100 + n / 16 % 16 * 0x10 + n % 16)
      (Text.Hex.encode 4 n) :=
    .digits (digit?_digit (by omega)) (digit?_digit (by omega)) (digit?_digit (by omega))
      (digit?_digit (by omega))
  have value : n / 16 / 16 / 16 % 16 * 0x1000 + n / 16 / 16 % 16 * 0x100 + n / 16 % 16 * 0x10 +
      n % 16 = n := by
    omega
  rwa [value] at digits

theorem spellsChar_escape (c : Char) : SpellsChar c (escapeChar c) := by
  have valid : c.toNat < 0xD800 ∨ 0xDFFF < c.toNat ∧ c.toNat < 0x110000 := c.valid
  unfold escapeChar
  iterate 7
    split
    · exact .short (by simp [*, shortEscapes])
  split
  · rename_i visible
    simp only [Bool.and_eq_true, decide_eq_true_eq] at visible
    exact .plain visible.1 ‹_› ‹_›
  split
  · rename_i inPlane
    have unit : SpellsChar (Char.ofNat c.toNat) (escapeUnit c.toNat) :=
      .unit (spellsUnit_encode inPlane) (by omega)
    rwa [Char.ofNat_toNat] at unit
  · rename_i above
    -- Ten bits of what is above the basic plane go to each of the two surrogates.
    have pair := SpellsChar.pair
      (spellsUnit_encode (n := 0xD800 + (c.toNat - 0x10000) / 0x400) (by omega)) (by omega) (by omega)
      (spellsUnit_encode (n := 0xDC00 + (c.toNat - 0x10000) % 0x400) (by omega)) (by omega) (by omega)
    have value : 0x10000 + (0xD800 + (c.toNat - 0x10000) / 0x400 - 0xD800) * 0x400 +
        (0xDC00 + (c.toNat - 0x10000) % 0x400 - 0xDC00) = c.toNat := by
      omega
    rwa [value, Char.ofNat_toNat] at pair

theorem spellsText_escape (s : String) : SpellsText s (escape s) := by
  apply SpellsText.quoted
  induction s.toList with
  | nil => exact .nil
  | cons c cs ih => exact .cons (spellsChar_escape c) ih

/-! ## Numbers -/

theorem isDigit_iff {c : Char} : isDigit c ↔ c.isDigit := by
  simp [isDigit, Char.isDigit, Char.le_def]

theorem digitsValue_eq (cs : List Char) : digitsValue cs = Nat.ofDigitChars 10 cs 0 := by
  simp only [digitsValue, Nat.ofDigitChars_eq_foldl, Nat.mul_comm 10]
  rfl

theorem head?_toDigits (positive : 0 < n) : (Nat.toDigits 10 n).head? ≠ some '0' := by
  induction n using Nat.strongRecOn with
  | _ n ih =>
    rw [Nat.toDigits_eq_if (by decide)]
    split
    · intro zero
      have := Nat.digitChar_eq_zero.mp (Option.some.inj zero)
      omega
    · obtain ⟨c, more, digits⟩ := List.exists_cons_of_ne_nil (Nat.toDigits_ne_nil (n := n / 10))
      have first := ih (n / 10) (by omega) (by omega)
      rw [digits] at first ⊢
      exact first

theorem spellsNat_repr (n : Nat) : SpellsNat n n.repr.toList where
  nonempty := by
    rw [Nat.toList_repr]
    exact Nat.toDigits_ne_nil
  decimal := fun c there => isDigit_iff.mpr (Decimal.isDigit_of_mem_repr there)
  shortest := by
    intro zero
    rw [Nat.toList_repr] at zero ⊢
    obtain rfl | positive := Nat.eq_zero_or_pos n
    · rfl
    · exact absurd zero (head?_toDigits positive)
  value := by rw [digitsValue_eq, Nat.toList_repr, Nat.ofDigitChars_ten_toDigits]

theorem spellsInt_number (n : Int) : SpellsInt n (number n) := by
  rw [number, word, Int.toString_eq_repr]
  rw [Int.repr_eq_if]
  split
  · rename_i positive
    have spells := SpellsInt.positive (spellsNat_repr n.toNat)
    rwa [Int.toNat_of_nonneg positive] at spells
  · rename_i negative
    have spells := SpellsInt.negative (spellsNat_repr (-n).toNat)
    rw [Int.toNat_of_nonneg (by omega), Int.neg_neg] at spells
    rw [String.toList_append]
    exact spells

end

/-! ## Values -/

theorem blank_newline (level : Nat) : Blank (newline level) := by
  intro c there
  cases there with
  | head => decide
  | tail _ there =>
    rw [List.eq_of_mem_replicate there]
    decide

theorem blank_nil : Blank [] := nofun

theorem indentedItems_eq (level : Nat) (items : List Value) :
    indentedItems level items = items.map (indentedChars level) := by
  induction items with
  | nil => rfl
  | cons v items ih => rw [indentedItems, ih, List.map_cons]

def indentedMember (level : Nat) (m : String × Value) : List Char :=
  escape m.1 ++ ':' :: ' ' :: indentedChars level m.2

theorem indentedMembers_eq (level : Nat) (members : List (String × Value)) :
    indentedMembers level members = members.map (indentedMember level) := by
  induction members with
  | nil => rfl
  | cons m members ih =>
    rw [indentedMembers, ih, List.map_cons]
    rfl

section
variable {α : Type} {level : Nat} {one : α → Node} {many : List α → Node} {print : α → List Char}
variable {xs : List α}

/-- Parts, each on a line of its own, are spelled as a whole if each of them is spelled between
blanks. -/
theorem spells_separated {blank after : List Char} (isBlank : Blank after)
    (last : ∀ {x written}, Spells (one x) written → Spells (many [x]) written)
    (cons : ∀ {x xs written rest}, Spells (one x) written → Spells (many xs) rest →
      Spells (many (x :: xs)) (written ++ ',' :: rest))
    (each : ∀ x ∈ xs, ∀ after, Blank after → Spells (one x) (blank ++ print x ++ after))
    (some : xs ≠ []) :
    Spells (many xs) (blank ++ separated (',' :: blank) (xs.map print) ++ after) := by
  induction xs with
  | nil => exact absurd rfl some
  | cons x xs ih =>
    cases xs with
    | nil => exact last (each x List.mem_cons_self after isBlank)
    | cons y ys =>
      have first := each x List.mem_cons_self [] nofun
      have others := ih (fun x there => each x (List.mem_cons_of_mem _ there)) (List.cons_ne_nil y ys)
      have both := cons first others
      simp only [List.append_assoc, List.nil_append] at both
      simp only [List.map_cons, separated, List.append_assoc, List.cons_append] at both ⊢
      exact both

end

theorem spells_member {m : String × Value} {after : List Char} (level : Nat)
    (spells : Spells (.value m.2) (indentedChars level m.2)) (isBlank : Blank after) :
    Spells (.member m.1 m.2) (newline level ++ indentedMember level m ++ after) := by
  have space : Blank [' '] := by
    simp only [Blank, List.mem_singleton, forall_eq]
    rfl
  have member := Spells.member (blank_newline level) (spellsText_escape m.1) blank_nil
    (.item space spells isBlank)
  simp only [List.append_assoc, List.append_nil, List.nil_append, List.cons_append] at member
  simp only [indentedMember, List.append_assoc, List.cons_append]
  exact member

theorem spells_indented {v : Value} (whole : Whole v) (level : Nat) :
    Spells (.value v) (indentedChars level v) := by
  induction whole generalizing level with
  | null => exact .null
  | bool b =>
    cases b with
    | false => exact .no
    | true => exact .yes
  | int n => exact .int (spellsInt_number n)
  | text s => exact .text (spellsText_escape s)
  | @list items _ ih =>
    rw [indentedChars, indentedItems_eq]
    cases items with
    | nil => exact .emptyList blank_nil
    | cons v items =>
      have spells := spells_separated (blank_newline level) .lastItem .items
        (fun v there _ isBlank => .item (blank_newline (level + 1)) (ih v there (level + 1)) isBlank)
        (List.cons_ne_nil v items)
      exact .list spells
  | @object members _ ih =>
    rw [indentedChars, indentedMembers_eq]
    cases members with
    | nil => exact .emptyObject blank_nil
    | cons m members =>
      have spells := spells_separated (blank_newline level) .lastMember .members
        (fun m there _ isBlank => spells_member (level + 1) (ih m there (level + 1)) isBlank)
        (List.cons_ne_nil m members)
      exact .object spells

/-- An indented document is a document of the value that was printed. -/
theorem document_indented {v : Value} (whole : Whole v) : Document v (indented v).toList := by
  have spells : Document v ([] ++ indentedChars 0 v ++ []) :=
    .item nofun (spells_indented whole 0) nofun
  rwa [List.nil_append, List.append_nil, ← String.toList_ofList (l := indentedChars 0 v)] at spells

/-! ## Characters -/

def Ascii (cs : List Char) : Prop := ∀ c ∈ cs, c.toNat < 0x80

-- It is decided along the text, not over all characters.
instance (cs : List Char) : Decidable (Ascii cs) :=
  List.decidableBAll (fun c : Char => c.toNat < 0x80) cs

section
variable {cs ds : List Char}

theorem Ascii.append (ascii : Ascii cs) (asciiToo : Ascii ds) : Ascii (cs ++ ds) :=
  fun c there => (List.mem_append.mp there).elim (ascii c) (asciiToo c)

theorem Ascii.cons {c : Char} (small : c.toNat < 0x80) (ascii : Ascii cs) : Ascii (c :: cs) :=
  List.forall_mem_cons.mpr ⟨small, ascii⟩

theorem ascii_encode (width n : Nat) : Ascii (Text.Hex.encode width n) := by
  induction width generalizing n with
  | zero => nofun
  | succ width ih =>
    have small : ∀ d < 16, (Text.Hex.digit d).toNat < 0x80 := by decide
    exact (ih (n / 16)).append (.cons (small (n % 16) (by omega)) nofun)

theorem ascii_escapeUnit (unit : Nat) : Ascii (escapeUnit unit) :=
  .cons (by decide) (.cons (by decide) (ascii_encode 4 unit))

theorem ascii_escapeChar (c : Char) : Ascii (escapeChar c) := by
  unfold escapeChar
  iterate 7
    split
    · decide
  split
  · rename_i visible
    simp only [Bool.and_eq_true, decide_eq_true_eq, Char.le_def, UInt32.le_iff_toNat_le] at visible
    exact .cons (Nat.lt_of_le_of_lt visible.2 (by decide)) nofun
  split
  · exact ascii_escapeUnit c.toNat
  · exact (ascii_escapeUnit _).append (ascii_escapeUnit _)

theorem ascii_escape (s : String) : Ascii (escape s) := by
  have inner : Ascii (s.toList.flatMap escapeChar) := by
    intro c there
    obtain ⟨d, -, inside⟩ := List.mem_flatMap.mp there
    exact ascii_escapeChar d c inside
  exact .cons (by decide) (inner.append (.cons (by decide) nofun))

theorem ascii_number (n : Int) : Ascii (number n) := by
  intro c there
  rw [number, word, Int.toString_eq_repr] at there
  cases Decimal.isNumeral_of_mem_repr there with
  | inl minus =>
    rw [minus]
    decide
  | inr digit =>
    simp only [Char.isDigit, Bool.and_eq_true, decide_eq_true_eq, UInt32.le_iff_toNat_le] at digit
    exact Nat.lt_of_le_of_lt digit.2 (by decide)

theorem ascii_newline (level : Nat) : Ascii (newline level) := by
  refine .cons (by decide) fun c there => ?_
  rw [List.eq_of_mem_replicate there]
  decide

theorem ascii_separated {separator : List Char} {parts : List (List Char)} (ascii : Ascii separator)
    (each : ∀ part ∈ parts, Ascii part) : Ascii (separated separator parts) := by
  induction parts with
  | nil => nofun
  | cons part parts ih =>
    obtain ⟨first, others⟩ := List.forall_mem_cons.mp each
    cases parts with
    | nil => exact first
    | cons => exact (first.append ascii).append (ih others)

theorem ascii_bracketed {opening closing : Char} {level : Nat} {parts : List (List Char)}
    (small : opening.toNat < 0x80) (smallToo : closing.toNat < 0x80)
    (each : ∀ part ∈ parts, Ascii part) : Ascii (bracketed opening closing level parts) := by
  cases parts with
  | nil => exact .cons small (.cons smallToo nofun)
  | cons part parts =>
    have inner := ascii_separated (.cons (c := ',') (by decide) (ascii_newline (level + 1))) each
    exact (((ascii_newline (level + 1)).cons small |>.append inner).append (ascii_newline level)).append
      (.cons smallToo nofun)

end

theorem ascii_indentedChars {v : Value} (whole : Whole v) (level : Nat) :
    Ascii (indentedChars level v) := by
  induction whole generalizing level with
  | null =>
    have small : Ascii (word "null") := by decide
    exact small
  | bool b =>
    have small : ∀ b : Bool, Ascii (word (if b then "true" else "false")) := by decide
    exact small b
  | int n => exact ascii_number n
  | text s => exact ascii_escape s
  | list _ ih =>
    rw [indentedChars, indentedItems_eq]
    refine ascii_bracketed (by decide) (by decide) fun part there => ?_
    obtain ⟨v, inside, rfl⟩ := List.mem_map.mp there
    exact ih v inside (level + 1)
  | object _ ih =>
    rw [indentedChars, indentedMembers_eq]
    refine ascii_bracketed (by decide) (by decide) fun part there => ?_
    obtain ⟨m, inside, rfl⟩ := List.mem_map.mp there
    exact (ascii_escape m.1).append
      (.cons (by decide) (.cons (by decide) (ih m inside (level + 1))))

/-- An indented document holds ASCII characters only. -/
theorem ascii_indented {v : Value} (whole : Whole v) : Ascii (indented v).toList := by
  rw [indented, String.toList_ofList]
  exact ascii_indentedChars whole 0

end TapeLang.Json
