import Mathlib.Data.List.DropRight
import Mathlib.Data.List.TakeDrop
import TapeLang.Proofs.Json.Grammar

/-! Every document is read, as the value that the grammar gives it.

So a text is a document of one value at most, and the value that is read is the one that any other
reader has to agree with. -/

set_option autoImplicit false

namespace TapeLang.Json

/-! ## Texts -/

section
variable {c : Char} {code low fuel : Nat} {digits second written rest read : List Char}

theorem readUnit_spelled (spells : SpellsUnit code digits) (rest : List Char) :
    readUnit (digits ++ rest) = some (code, rest) := by
  cases spells with
  | digits a b c d => simp only [List.cons_append, List.nil_append, readUnit, a, b, c, d]; rfl

theorem readEscapedUnit_unit (spells : SpellsUnit code digits)
    (inPlane : code < 0xD800 ∨ 0xE000 ≤ code) (rest : List Char) :
    readEscapedUnit (digits ++ rest) = some (Char.ofNat code, rest) := by
  have noHigh : (decide (0xD800 ≤ code) && decide (code < 0xDC00)) = false := by
    simp only [Bool.and_eq_false_iff, decide_eq_false_iff_not]
    omega
  have noLow : (decide (0xDC00 ≤ code) && decide (code < 0xE000)) = false := by
    simp only [Bool.and_eq_false_iff, decide_eq_false_iff_not]
    omega
  simp only [readEscapedUnit, readUnit_spelled spells, bind, Option.bind, noHigh, noLow]
  rfl

theorem readEscapedUnit_pair (spells : SpellsUnit code digits) (above : 0xD800 ≤ code)
    (below : code < 0xDC00) (spellsToo : SpellsUnit low second) (aboveToo : 0xDC00 ≤ low)
    (belowToo : low < 0xE000) (rest : List Char) :
    readEscapedUnit (digits ++ '\\' :: 'u' :: (second ++ rest)) =
      some (Char.ofNat (0x10000 + (code - 0xD800) * 0x400 + (low - 0xDC00)), rest) := by
  have isHigh : (decide (0xD800 ≤ code) && decide (code < 0xDC00)) = true := by simp [above, below]
  have isLow : (decide (0xDC00 ≤ low) && decide (low < 0xE000)) = true := by
    simp [aboveToo, belowToo]
  simp only [readEscapedUnit, readUnit_spelled spells, readUnit_spelled spellsToo, bind, Option.bind,
    isHigh, isLow]
  rfl

theorem readEscape_short {mark : Char} (short : (mark, c) ∈ shortEscapes) (rest : List Char) :
    readEscape (mark :: rest) = some (c, rest) := by
  simp only [shortEscapes, List.mem_cons, Prod.mk.injEq, List.not_mem_nil, or_false] at short
  obtain ⟨rfl, rfl⟩ | ⟨rfl, rfl⟩ | ⟨rfl, rfl⟩ | ⟨rfl, rfl⟩ | ⟨rfl, rfl⟩ | ⟨rfl, rfl⟩ | ⟨rfl, rfl⟩ |
    ⟨rfl, rfl⟩ := short <;> rfl

theorem readChars_escape (escaped : readEscape written = some (c, rest)) :
    readChars (fuel + 1) read ('\\' :: written) = readChars fuel (c :: read) rest := by
  rw [readChars, if_neg (by decide), if_pos rfl, escaped]
  rfl

theorem readChars_spelled (spells : SpellsChar c written) (fuel : Nat) (read rest : List Char) :
    readChars (fuel + 1) read (written ++ rest) = readChars fuel (c :: read) rest := by
  cases spells with
  | plain visible noQuote noEscape =>
    rw [List.cons_append, List.nil_append, readChars, if_neg noQuote, if_neg noEscape]
  | short there => exact readChars_escape (readEscape_short there rest)
  | unit digits inPlane => exact readChars_escape (readEscapedUnit_unit digits inPlane rest)
  | pair high above below low aboveToo belowToo =>
    rw [List.append_assoc]
    exact readChars_escape (readEscapedUnit_pair high above below low aboveToo belowToo rest)

theorem SpellsChar.nonempty (spells : SpellsChar c written) : 0 < written.length := by
  cases spells <;> exact Nat.succ_pos _

/-- The characters up to the closing quote are read, for which there is bound enough. -/
theorem readChars_text {cs : List Char} (spells : SpellsChars cs written)
    (enough : written.length < fuel) (read rest : List Char) :
    readChars fuel read (written ++ '"' :: rest) =
      some (String.ofList (read.reverse ++ cs), rest) := by
  induction spells generalizing fuel read with
  | nil =>
    obtain ⟨fuel, rfl⟩ := Nat.exists_eq_add_one_of_ne_zero (Nat.ne_of_gt enough)
    rw [List.nil_append, readChars, if_pos rfl, List.append_nil]
  | @cons c cs first others spells _ ih =>
    have some := spells.nonempty
    rw [List.length_append] at enough
    obtain ⟨fuel, rfl⟩ := Nat.exists_eq_add_one_of_ne_zero (Nat.ne_of_gt (Nat.zero_lt_of_lt enough))
    rw [List.append_assoc, readChars_spelled spells, ih (by omega), List.reverse_cons,
      List.append_assoc]
    rfl

theorem readText_spelled {s : String} (spells : SpellsText s written) (rest : List Char) :
    readText (written ++ rest) = some (s, rest) := by
  cases spells with
  | @quoted written spells =>
    have enough : written.length < (written ++ '"' :: rest).length + 1 := by
      rw [List.length_append]
      omega
    simp only [List.cons_append, List.append_assoc, List.nil_append, readText]
    exact (readChars_text spells enough [] rest).trans (by rw [List.reverse_nil, List.nil_append,
      String.ofList_toList])

end

/-! ## Numbers -/

/-- A rest that does not go on with a number: what can follow a value in a document. -/
def Closes (rest : List Char) : Prop :=
  ∀ c, rest.head? = some c → isSpace c ∨ c = ',' ∨ c = ']' ∨ c = '\x7d'

section
variable {n : Nat} {digits rest : List Char}

theorem Closes.ends (closes : Closes rest) {c : Char} (first : rest.head? = some c) :
    isDigit c = false ∧ c ≠ '.' ∧ c ≠ 'e' ∧ c ≠ 'E' := by
  have closing := closes c first
  simp only [isSpace, Bool.or_eq_true, decide_eq_true_eq] at closing
  rcases closing with (((rfl | rfl) | rfl) | rfl) | rfl | rfl | rfl <;> decide

theorem span_digits (decimal : ∀ c ∈ digits, isDigit c) (closes : Closes rest) :
    (digits ++ rest).span isDigit = (digits, rest) := by
  rw [List.span_eq_takeWhile_dropWhile, List.takeWhile_append_of_pos decimal,
    List.dropWhile_append_of_pos decimal]
  cases rest with
  | nil => simp
  | cons c rest =>
    have ends := (closes.ends rfl).1
    simp [ends]

theorem readMagnitude_spelled (spells : SpellsNat n digits) (closes : Closes rest)
    (negative : Bool) :
    readMagnitude negative (digits ++ rest) =
      some (.int (if negative then -n else n), rest) := by
  have fraction : readFraction rest = some ([], rest) := by
    unfold readFraction
    split
    · exact absurd rfl (closes.ends rfl).2.1
    · rfl
  have exponent : readExponent rest = some (none, rest) := by
    unfold readExponent
    split
    · rename_i c more
      obtain ⟨-, -, small, large⟩ := closes.ends rfl
      rw [if_neg (by simp [small, large])]
    · rfl
  unfold readMagnitude
  rw [span_digits spells.decimal closes]
  split
  · rename_i none
    cases none
    exact absurd rfl spells.nonempty
  · rename_i found
    cases found
    simp only [fraction, exponent, bind, Option.bind, spells.value]
    rfl

end

/-! ## Values -/

section
variable {cs rest : List Char} {fuel : Nat}

theorem skipSpaces_blank {blank : List Char} (spaces : Blank blank) (cs : List Char) :
    skipSpaces (blank ++ cs) = skipSpaces cs := List.dropWhile_append_of_pos spaces

theorem skipSpaces_cons {c : Char} (visible : isSpace c = false) (cs : List Char) :
    skipSpaces (c :: cs) = c :: cs := by
  rw [skipSpaces, List.dropWhile_cons_of_neg (by simp [visible])]

theorem skipSpaces_skipSpaces (cs : List Char) : skipSpaces (skipSpaces cs) = skipSpaces cs :=
  List.dropWhile_idempotent ..

theorem readValue_skipSpaces (fuel : Nat) (cs : List Char) :
    readValue fuel (skipSpaces cs) = readValue fuel cs := by
  cases fuel with
  | zero => rfl
  | succ fuel => rw [readValue, readValue, skipSpaces_skipSpaces]

theorem readItems_skipSpaces (fuel : Nat) (cs : List Char) :
    readItems fuel (skipSpaces cs) = readItems fuel cs := by
  cases fuel with
  | zero => rfl
  | succ fuel => rw [readItems, readItems, readValue_skipSpaces]

theorem readMembers_skipSpaces (fuel : Nat) (cs : List Char) :
    readMembers fuel (skipSpaces cs) = readMembers fuel cs := by
  cases fuel with
  | zero => rfl
  | succ fuel => rw [readMembers, readMembers, skipSpaces_skipSpaces]

theorem readItems_closed (fuel : Nat) (cs : List Char) : readItems fuel (']' :: cs) = none := by
  match fuel with
  | 0 => rfl
  | 1 => rfl
  | fuel + 2 =>
    rw [readItems, readValue, skipSpaces_cons (by decide)]
    rfl

theorem readMembers_closed (fuel : Nat) (cs : List Char) :
    readMembers fuel ('\x7d' :: cs) = none := by
  cases fuel with
  | zero => rfl
  | succ fuel =>
    rw [readMembers, skipSpaces_cons (by decide)]
    rfl

def Ends (rest : List Char) : Prop :=
  rest = [] ∨ ∃ c more, rest = c :: more ∧ (c = ',' ∨ c = ']' ∨ c = '\x7d')

/-- The written form of a node is read as the node, wherever it stands and with any bound that is no
less than its length. -/
def Node.IsRead (written : List Char) : Node → Prop
  | .value v => ∀ fuel rest, written.length ≤ fuel → Closes rest →
      readValue fuel (written ++ rest) = some (v, rest)
  | .item v => ∀ fuel rest, written.length ≤ fuel → Ends rest →
      ∃ left, readValue fuel (written ++ rest) = some (v, left) ∧ skipSpaces left = rest
  | .items vs => ∀ fuel rest, written.length < fuel →
      readItems fuel (written ++ ']' :: rest) = some (vs, rest)
  | .member key v => ∀ fuel rest, written.length ≤ fuel → Ends rest →
      ∃ named value left, readText (skipSpaces (written ++ rest)) = some (key, named) ∧
        skipSpaces named = ':' :: value ∧ readValue fuel value = some (v, left) ∧
        skipSpaces left = rest
  | .members ms => ∀ fuel rest, written.length < fuel →
      readMembers fuel (written ++ '\x7d' :: rest) = some (ms, rest)

theorem Ends.closes (ends : Ends rest) : Closes rest := by
  rintro c first
  obtain rfl | ⟨d, more, rfl, closing⟩ := ends
  · cases first
  · cases first
    exact .inr closing

theorem Ends.skipSpaces (ends : Ends rest) : skipSpaces rest = rest := by
  obtain rfl | ⟨c, more, rfl, rfl | rfl | rfl⟩ := ends
  · rfl
  all_goals exact skipSpaces_cons (by decide) more

theorem closes_blank {blank : List Char} (spaces : Blank blank) (ends : Ends rest) :
    Closes (blank ++ rest) := by
  cases blank with
  | nil => exact ends.closes
  | cons c blank =>
    rintro _ ⟨⟩
    exact .inl (spaces c List.mem_cons_self)

-- A node is never empty, so a bound that is enough for it is positive.
theorem exists_succ {size : Nat} (enough : size < fuel) : ∃ less, fuel = less + 1 ∧ size ≤ less :=
  ⟨fuel - 1, by omega, by omega⟩

theorem readValue_number {c : Char} (starts : isDigit c ∨ c = '-') (fuel : Nat) (cs : List Char) :
    readValue (fuel + 1) (c :: cs) = readNumber (c :: cs) := by
  rcases starts with digit | rfl
  · have visible : isSpace c = false := by
      refine Bool.eq_false_iff.mpr fun space => ?_
      simp only [isSpace, Bool.or_eq_true, decide_eq_true_eq] at space
      rcases space with ((rfl | rfl) | rfl) | rfl <;> exact absurd digit (by decide)
    rw [readValue, skipSpaces_cons visible]
    split
    case h_7 => rfl
    all_goals
      rename_i found
      cases found
      exact absurd digit (by decide)
  · rfl

theorem readNumber_digit {c : Char} (digit : isDigit c) (cs : List Char) :
    readNumber (c :: cs) = readMagnitude false (c :: cs) := by
  unfold readNumber
  split
  case h_5 => rfl
  all_goals
    rename_i found
    cases found
    exact absurd digit (by decide)

theorem readNumber_minus {c : Char} (digit : isDigit c) (cs : List Char) :
    readNumber ('-' :: c :: cs) = readMagnitude true (c :: cs) := by
  unfold readNumber
  split
  case h_4 =>
    rename_i found
    cases found
    rfl
  case h_5 other => exact absurd rfl (other _)
  all_goals
    rename_i found
    cases found
    try exact absurd digit (by decide)

theorem SpellsNat.exists_cons {n : Nat} {digits : List Char} (spells : SpellsNat n digits) :
    ∃ c more, digits = c :: more ∧ isDigit c := by
  obtain ⟨c, more, rfl⟩ := List.exists_cons_of_ne_nil spells.nonempty
  exact ⟨c, more, rfl, spells.decimal c List.mem_cons_self⟩

theorem SpellsInt.isRead {n : Int} {written : List Char} (spells : SpellsInt n written) :
    (Node.value (.int n)).IsRead written := by
  intro fuel rest enough closes
  cases spells with
  | positive spells =>
    obtain ⟨c, more, rfl, digit⟩ := spells.exists_cons
    obtain ⟨fuel, rfl, -⟩ := exists_succ enough
    have read := readMagnitude_spelled spells closes false
    rw [List.cons_append] at read ⊢
    rw [readValue_number (.inl digit), readNumber_digit digit, read]
    rfl
  | negative spells =>
    obtain ⟨c, more, rfl, digit⟩ := spells.exists_cons
    obtain ⟨fuel, rfl, -⟩ := exists_succ enough
    have read := readMagnitude_spelled spells closes true
    rw [List.cons_append] at read
    rw [List.cons_append, List.cons_append, readValue_number (.inr rfl), readNumber_minus digit, read]
    rfl

theorem SpellsText.isRead {s : String} {written : List Char} (spells : SpellsText s written) :
    (Node.value (.text s)).IsRead written := by
  intro fuel rest enough _
  have read := readText_spelled spells rest
  cases spells with
  | quoted spells =>
    obtain ⟨fuel, rfl, -⟩ := exists_succ enough
    rw [List.cons_append, List.cons_append] at read ⊢
    rw [readValue, skipSpaces_cons (by decide)]
    exact congrArg (Option.map _) read

theorem SpellsText.exists_quote {s : String} {written : List Char} (spells : SpellsText s written) :
    ∃ more, written = '"' :: more := by
  cases spells with
  | quoted => exact ⟨_, rfl⟩

/-! ## Nodes -/

section
variable {v : Value} {vs : List Value} {key : String} {ms : List (String × Value)}
variable {before name after written others blank : List Char}

theorem isRead_emptyList (spaces : Blank blank) :
    (Node.value (.list [])).IsRead ('[' :: blank ++ [']']) := by
  intro fuel rest enough _
  obtain ⟨fuel, rfl, -⟩ := exists_succ enough
  simp only [List.cons_append, List.append_assoc, List.nil_append, readValue,
    skipSpaces_cons (show isSpace '[' = false by decide), skipSpaces_blank spaces,
    skipSpaces_cons (show isSpace ']' = false by decide)]

theorem isRead_emptyObject (spaces : Blank blank) :
    (Node.value (.object [])).IsRead ('\x7b' :: blank ++ ['\x7d']) := by
  intro fuel rest enough _
  obtain ⟨fuel, rfl, -⟩ := exists_succ enough
  simp only [List.cons_append, List.append_assoc, List.nil_append, readValue,
    skipSpaces_cons (show isSpace '\x7b' = false by decide), skipSpaces_blank spaces,
    skipSpaces_cons (show isSpace '\x7d' = false by decide)]

theorem Node.IsRead.list (items : (Node.items vs).IsRead written) :
    (Node.value (.list vs)).IsRead ('[' :: written ++ [']']) := by
  intro fuel rest enough _
  rw [List.length_append, List.length_cons, List.length_singleton] at enough
  obtain ⟨fuel, rfl, -⟩ := exists_succ (Nat.lt_of_succ_le enough)
  have read : readItems fuel (skipSpaces (written ++ ']' :: rest)) = some (vs, rest) := by
    rw [readItems_skipSpaces]
    exact items fuel rest (by omega)
  simp only [List.cons_append, List.append_assoc, List.nil_append, readValue,
    skipSpaces_cons (show isSpace '[' = false by decide)]
  split
  · rename_i closed
    rw [closed, readItems_closed] at read
    cases read
  · rw [read]
    rfl

theorem Node.IsRead.object (members : (Node.members ms).IsRead written) :
    (Node.value (.object ms)).IsRead ('\x7b' :: written ++ ['\x7d']) := by
  intro fuel rest enough _
  rw [List.length_append, List.length_cons, List.length_singleton] at enough
  obtain ⟨fuel, rfl, -⟩ := exists_succ (Nat.lt_of_succ_le enough)
  have read : readMembers fuel (skipSpaces (written ++ '\x7d' :: rest)) = some (ms, rest) := by
    rw [readMembers_skipSpaces]
    exact members fuel rest (by omega)
  simp only [List.cons_append, List.append_assoc, List.nil_append, readValue,
    skipSpaces_cons (show isSpace '\x7b' = false by decide)]
  split
  · rename_i closed
    rw [closed, readMembers_closed] at read
    cases read
  · rw [read]
    rfl

theorem Node.IsRead.item (spaces : Blank before) (value : (Node.value v).IsRead written)
    (spacesToo : Blank after) : (Node.item v).IsRead (before ++ written ++ after) := by
  intro fuel rest enough ends
  refine ⟨after ++ rest, ?_, ?_⟩
  · rw [← readValue_skipSpaces, List.append_assoc, List.append_assoc, skipSpaces_blank spaces,
      readValue_skipSpaces]
    simp only [List.length_append] at enough
    exact value fuel (after ++ rest) (by omega) (closes_blank spacesToo ends)
  · rw [skipSpaces_blank spacesToo, ends.skipSpaces]

theorem Node.IsRead.lastItem (item : (Node.item v).IsRead written) :
    (Node.items [v]).IsRead written := by
  intro fuel rest enough
  obtain ⟨fuel, rfl, within⟩ := exists_succ enough
  obtain ⟨left, read, skipped⟩ := item fuel (']' :: rest) within (.inr ⟨_, rest, rfl, by simp⟩)
  simp only [readItems, read, bind, Option.bind, skipped]
  rfl

theorem Node.IsRead.items (item : (Node.item v).IsRead written)
    (items : (Node.items vs).IsRead others) :
    (Node.items (v :: vs)).IsRead (written ++ ',' :: others) := by
  intro fuel rest enough
  rw [List.length_append, List.length_cons] at enough
  obtain ⟨fuel, rfl, within⟩ := exists_succ enough
  have readOthers := items fuel rest (by omega)
  obtain ⟨left, read, skipped⟩ :=
    item fuel (',' :: (others ++ ']' :: rest)) (by omega) (.inr ⟨_, _, rfl, by simp⟩)
  rw [List.append_assoc, List.cons_append]
  simp only [readItems, read, bind, Option.bind, skipped, readOthers]
  rfl

theorem Node.IsRead.member (spaces : Blank before) (text : SpellsText key name)
    (spacesToo : Blank after) (item : (Node.item v).IsRead written) :
    (Node.member key v).IsRead (before ++ name ++ after ++ ':' :: written) := by
  intro fuel rest enough ends
  simp only [List.length_append, List.length_cons] at enough
  obtain ⟨left, read, skipped⟩ := item fuel rest (by omega) ends
  refine ⟨after ++ ':' :: (written ++ rest), written ++ rest, left, ?_, ?_, read, skipped⟩
  · obtain ⟨more, rfl⟩ := text.exists_quote
    simp only [List.append_assoc, List.cons_append]
    rw [skipSpaces_blank spaces, skipSpaces_cons (by decide)]
    exact readText_spelled text _
  · rw [skipSpaces_blank spacesToo, skipSpaces_cons (by decide)]

theorem Node.IsRead.lastMember (member : (Node.member key v).IsRead written) :
    (Node.members [(key, v)]).IsRead written := by
  intro fuel rest enough
  obtain ⟨fuel, rfl, within⟩ := exists_succ enough
  obtain ⟨named, value, left, isNamed, colon, read, skipped⟩ :=
    member fuel ('\x7d' :: rest) within (.inr ⟨_, rest, rfl, by simp⟩)
  simp only [readMembers, isNamed, colon, read, bind, Option.bind, skipped]
  rfl

theorem Node.IsRead.members (member : (Node.member key v).IsRead written)
    (members : (Node.members ms).IsRead others) :
    (Node.members ((key, v) :: ms)).IsRead (written ++ ',' :: others) := by
  intro fuel rest enough
  rw [List.length_append, List.length_cons] at enough
  obtain ⟨fuel, rfl, within⟩ := exists_succ enough
  have readOthers := members fuel rest (by omega)
  obtain ⟨named, value, left, isNamed, colon, read, skipped⟩ :=
    member fuel (',' :: (others ++ '\x7d' :: rest)) (by omega) (.inr ⟨_, _, rfl, by simp⟩)
  rw [List.append_assoc, List.cons_append]
  simp only [readMembers, isNamed, colon, read, bind, Option.bind, skipped, readOthers]
  rfl

end

/-- Whatever the grammar spells is read. -/
theorem Spells.isRead {node : Node} {written : List Char} (spells : Spells node written) :
    node.IsRead written := by
  induction spells with
  | null | yes | no =>
    intro fuel rest enough _
    obtain ⟨fuel, rfl, -⟩ := exists_succ enough
    rfl
  | int spells => exact spells.isRead
  | text spells => exact spells.isRead
  | emptyList blank => exact isRead_emptyList blank
  | list _ items => exact items.list
  | emptyObject blank => exact isRead_emptyObject blank
  | object _ members => exact members.object
  | item blank _ blankToo value => exact .item blank value blankToo
  | lastItem _ item => exact item.lastItem
  | items _ _ item items => exact item.items items
  | member blank text blankToo _ item => exact .member blank text blankToo item
  | lastMember _ member => exact member.lastMember
  | members _ _ member members => exact member.members members

end

/-- A document is read as its value. -/
theorem parse?_document {v : Value} {s : String} (document : Document v s.toList) :
    parse? s = some v := by
  obtain ⟨left, read, skipped⟩ :=
    Spells.isRead document (2 * s.toList.length + 2) [] (by omega) (.inl rfl)
  rw [List.append_nil] at read
  simp only [parse?, read, bind, Option.bind, skipped]
  rfl

/-- A text is a document of one value at most. -/
theorem document_unique {v w : Value} {s : String} (document : Document v s.toList)
    (again : Document w s.toList) : v = w :=
  Option.some.inj ((parse?_document document).symm.trans (parse?_document again))

end TapeLang.Json
