import Mathlib
import TapeLang.Proofs.Decimal.Numerals
import TapeLang.Proofs.Text.Parts
import TapeLang.Trace.Summary

/-! What a summary of a tape tells.

Blanks part the words of a summary, and no word has one. So what it says can be read off it again: how
many nonzero cells there are, the largest of them, the first ones with their places, and how many are
left out. A summary that leaves out none tells the whole tape. -/

set_option autoImplicit false

namespace TapeLang.Trace

/-! ## Reading summaries -/

def words (text : String) : List String := (text.toList.splitOn ' ').map String.ofList

/-- The number in a word that has an opening before it and a closing after it. -/
def number? (opening closing word : String) : Option Nat := do
  let rest ← word.toList.dropPrefix? opening.toList
  let digits ← rest.dropSuffix? closing.toList
  (String.ofList digits).toNat?

/-- A place and the cell there, in a word with an equals sign between them. -/
def pair? (word : String) : Option (Nat × Nat) :=
  match word.toList.splitOn '=' with
  | [place, cell] => do pure (← (String.ofList place).toNat?, ← (String.ofList cell).toNat?)
  | _ => none

/-- How many cells the last words of a summary leave out, if they say so. -/
def omission? : List String → Option (Option Nat)
  | [] => some none
  | ["...", number, "more)"] => (number? "(+" "" number).map some
  | _ => none

structure Account where
  count : Nat
  largest : Nat
  /-- Places and cells. -/
  listed : List (Nat × Nat)
  /-- How many cells are not listed, if it says so. -/
  omitted : Option Nat
  deriving DecidableEq, Repr

namespace Account

def read? (text : String) : Option Account :=
  match words text with
  | "tape:" :: count :: "nonzero" :: "cell(s)," :: largest :: rest => do
    let count ← number? "" "" count
    let largest ← number? "max=" ":" largest
    let listed ← (rest.takeWhile (· ≠ "...")).mapM pair?
    let omitted ← omission? (rest.dropWhile (· ≠ "..."))
    pure { count, largest, listed, omitted }
  | _ => none

/-- An account is that of a tape, with as many of its nonzero cells as a limit allows. -/
structure Describes (account : Account) (cells : List UInt8) (limit : Nat) : Prop where
  count : account.count = cells.countP (· ≠ 0)
  largest : IsGreatest {value | ∃ cell ∈ cells, cell.toNat = value} account.largest
  length : account.listed.length = min limit account.count
  ascending : account.listed.Pairwise (·.1 < ·.1)
  /-- What is listed is a nonzero cell at its place. -/
  nonzero : ∀ place value, (place, value) ∈ account.listed →
    ∃ cell, cells[place]? = some cell ∧ cell ≠ 0 ∧ cell.toNat = value
  /-- A nonzero cell that is not listed comes after all that are. -/
  first : ∀ place cell, cells[place]? = some cell → cell ≠ 0 →
    (place, cell.toNat) ∈ account.listed ∨ ∀ pair ∈ account.listed, pair.1 < place
  omitted : ∀ more, account.omitted = some more ↔
    limit < account.count ∧ more = account.count - limit

end Account

/-! ## Writing accounts -/

def numberWord (opening closing : String) (n : Nat) : String := opening ++ n.repr ++ closing

def pairWord (pair : Nat × Nat) : String := pair.1.repr ++ "=" ++ pair.2.repr

def omissionWords : Option Nat → List String
  | none => []
  | some more => ["...", numberWord "(+" "" more, "more)"]

def Account.toWords (account : Account) : List String :=
  ["tape:", numberWord "" "" account.count, "nonzero", "cell(s),",
      numberWord "max=" ":" account.largest] ++
    (account.listed.map pairWord ++ omissionWords account.omitted)

section
variable {opening closing : String}

theorem toList_numberWord (n : Nat) :
    (numberWord opening closing n).toList = opening.toList ++ (n.repr.toList ++ closing.toList) := by
  simp only [numberWord, String.toList_append, List.append_assoc]

theorem toList_pairWord (place cell : Nat) :
    (pairWord (place, cell)).toList = place.repr.toList ++ '=' :: cell.repr.toList := by
  simp only [pairWord, String.toList_append, List.append_assoc]
  rfl

/-! ## Words are read -/

theorem number?_numberWord (n : Nat) (opening closing : String) :
    number? opening closing (numberWord opening closing n) = some n := by
  have before : (opening.toList ++ (n.repr.toList ++ closing.toList)).dropPrefix? opening.toList =
      some (n.repr.toList ++ closing.toList) := List.dropPrefix?_append_of_beq _ BEq.rfl
  have after : (n.repr.toList ++ closing.toList).dropSuffix? closing.toList =
      some n.repr.toList := List.dropSuffix?_eq_some_iff.mpr ⟨closing.toList, rfl, BEq.rfl⟩
  simp only [number?, toList_numberWord, before, after, Option.bind_eq_bind, Option.bind_some,
    String.ofList_toList, Nat.toNat?_repr]

theorem pair?_pairWord (pair : Nat × Nat) : pair? (pairWord pair) = some pair := by
  obtain ⟨place, cell⟩ := pair
  have sign (n : Nat) : '=' ∉ n.repr.toList := Decimal.not_mem_repr (by decide) n
  have split : (pairWord (place, cell)).toList.splitOn '=' =
      [place.repr.toList, cell.repr.toList] := by
    rw [toList_pairWord, List.splitOn_append_cons_self_of_not_mem (sign _),
      List.splitOn_eq_singleton (sign _)]
  simp only [pair?, split, String.ofList_toList, Nat.toNat?_repr]
  rfl

theorem omission?_omissionWords (omitted : Option Nat) :
    omission? (omissionWords omitted) = some omitted := by
  cases omitted with
  | none => rfl
  | some more => simp only [omissionWords, omission?, number?_numberWord, Option.map_some]

/-! ## Words are told apart -/

-- An omission starts with dots, and no pair does.
theorem pairWord_ne_dots (pair : Nat × Nat) : pairWord pair ≠ "..." := by
  intro same
  have sign : '=' ∈ (pairWord pair).toList := by simp [toList_pairWord pair.1 pair.2]
  rw [same] at sign
  exact absurd sign (by decide)

theorem ne_dots_of_mem (pairs : List (Nat × Nat)) :
    ∀ word ∈ pairs.map pairWord, decide (word ≠ "...") = true := by
  intro word there
  obtain ⟨pair, _, rfl⟩ := List.mem_map.mp there
  exact decide_eq_true (pairWord_ne_dots pair)

theorem takeWhile_words (pairs : List (Nat × Nat)) (omitted : Option Nat) :
    (pairs.map pairWord ++ omissionWords omitted).takeWhile (· ≠ "...") = pairs.map pairWord := by
  have ended : (omissionWords omitted).takeWhile (· ≠ "...") = [] := by cases omitted <;> rfl
  rw [List.takeWhile_append_of_pos (ne_dots_of_mem pairs), ended, List.append_nil]

theorem dropWhile_words (pairs : List (Nat × Nat)) (omitted : Option Nat) :
    (pairs.map pairWord ++ omissionWords omitted).dropWhile (· ≠ "...") = omissionWords omitted := by
  rw [List.dropWhile_append_of_pos (ne_dots_of_mem pairs)]
  cases omitted <;> rfl

theorem blank_not_mem_numberWord (before : ' ' ∉ opening.toList) (after : ' ' ∉ closing.toList)
    (n : Nat) : ' ' ∉ (numberWord opening closing n).toList := by
  have digits : ' ' ∉ n.repr.toList := Decimal.not_mem_repr (by decide) n
  simp only [toList_numberWord, List.mem_append, before, after, digits, or_false, not_false_iff]

theorem blank_not_mem_pairWord (pair : Nat × Nat) : ' ' ∉ (pairWord pair).toList := by
  have digits (n : Nat) : ' ' ∉ n.repr.toList := Decimal.not_mem_repr (by decide) n
  simp only [toList_pairWord pair.1 pair.2, List.mem_append, List.mem_cons, digits]
  decide

theorem blank_not_mem_omissionWords (omitted : Option Nat) :
    ∀ word ∈ omissionWords omitted, ' ' ∉ word.toList := by
  cases omitted with
  | none => exact nofun
  | some more =>
    simp only [omissionWords, List.forall_mem_cons]
    exact ⟨by decide, blank_not_mem_numberWord (by decide) (by decide) more, by decide, nofun⟩

end

namespace Account

theorem blank_not_mem_toWords (account : Account) :
    ∀ word ∈ account.toWords, ' ' ∉ word.toList := by
  simp only [toWords, List.forall_mem_append, List.forall_mem_cons, List.forall_mem_map]
  refine ⟨⟨by decide, ?_, by decide, by decide, ?_, nofun⟩, fun pair _ => blank_not_mem_pairWord pair,
    blank_not_mem_omissionWords account.omitted⟩
  · exact blank_not_mem_numberWord (by decide) (by decide) account.count
  · exact blank_not_mem_numberWord (by decide) (by decide) account.largest

theorem words_toWords (account : Account) :
    words (" ".intercalate account.toWords) = account.toWords := by
  have some : account.toWords ≠ [] := List.cons_ne_nil _ _
  have split : (" ".intercalate account.toWords).toList.splitOn ' ' =
      account.toWords.map String.toList :=
    Text.splitOn_intercalate ' ' some account.blank_not_mem_toWords
  rw [words, split, List.map_map]
  simp

/-- An account is read off the words that it is written with. -/
theorem read?_toWords (account : Account) :
    read? (" ".intercalate account.toWords) = some account := by
  have pairs : (account.listed.map pairWord).mapM pair? = some (account.listed.map id) :=
    Text.mapM_map_read pair?_pairWord account.listed
  rw [read?, words_toWords]
  simp only [toWords, List.cons_append, List.nil_append, number?_numberWord, takeWhile_words,
    dropWhile_words, pairs, omission?_omissionWords, Option.bind_eq_bind, Option.bind_some,
    List.map_id]
  rfl

example : read? "tape: 3 nonzero cell(s), max=255: 1=3 3=255 ... (+1 more)" =
    some ⟨3, 255, [(1, 3), (3, 255)], some 1⟩ := by cbv

end Account

/-! ## Nonzero cells -/

section
variable {cells other : List UInt8} {place : Nat} {cell : UInt8}

theorem nonzeroFrom_eq (start : Nat) (cells : List UInt8) :
    nonzeroFrom start cells = ((cells.zipIdx start).filter (·.1 ≠ 0)).map Prod.swap := by
  induction cells generalizing start with
  | nil => rfl
  | cons cell cells ih =>
    rw [nonzeroFrom, ih, List.zipIdx_cons]
    by_cases zero : cell = 0 <;> simp [zero]

theorem mem_nonzero : (place, cell) ∈ nonzero cells ↔ cells[place]? = some cell ∧ cell ≠ 0 := by
  simp [nonzero, nonzeroFrom_eq, List.mem_zipIdx_iff_getElem?]

theorem pairwise_nonzero (cells : List UInt8) : (nonzero cells).Pairwise (·.1 < ·.1) := by
  have places : (cells.zipIdx.map Prod.snd).Pairwise (· < ·) := by
    rw [List.zipIdx_map_snd]
    exact List.pairwise_lt_range'
  rw [nonzero, nonzeroFrom_eq, List.pairwise_map]
  exact (List.pairwise_map.mp places).filter _

theorem length_nonzero (cells : List UInt8) : (nonzero cells).length = cells.countP (· ≠ 0) := by
  rw [nonzero, nonzeroFrom_eq, List.length_map, ← List.countP_eq_length_filter]
  conv_rhs => rw [← List.zipIdx_map_fst 0 cells, List.countP_map]
  rfl

theorem nonzero_eq_nil : nonzero cells = [] ↔ ∀ cell ∈ cells, cell = 0 := by
  rw [← List.length_eq_zero_iff, length_nonzero, List.countP_eq_zero]
  simp

/-- A tape is known from its length and its nonzero cells. -/
theorem eq_of_nonzero (length : other.length = cells.length)
    (same : nonzero other = nonzero cells) : other = cells := by
  refine List.ext_getElem length fun place inside insideToo => ?_
  have alike (cell : UInt8) (some : cell ≠ 0) : other[place] = cell ↔ cells[place] = cell := by
    have both : (place, cell) ∈ nonzero other ↔ (place, cell) ∈ nonzero cells := by rw [same]
    simpa [mem_nonzero, some, inside, insideToo] using both
  by_cases zero : other[place] = 0
  · by_cases zeroToo : cells[place] = 0
    · rw [zero, zeroToo]
    · exact (alike _ zeroToo).mpr rfl
  · exact ((alike _ zero).mp rfl).symm

theorem toNat_largest (cells : List UInt8) :
    (largest cells).toNat = (cells.map UInt8.toNat).foldl max 0 := by
  rw [largest, List.foldl_map]
  exact (List.foldl_hom UInt8.toNat fun a b => (UInt8.toNat_max a b).symm).symm

theorem isGreatest_largest (some : cells ≠ []) :
    IsGreatest {value | ∃ cell ∈ cells, cell.toNat = value} (largest cells).toNat := by
  have values : cells.map UInt8.toNat ≠ [] := mt List.map_eq_nil_iff.mp some
  obtain ⟨top, found⟩ := Option.isSome_iff_exists.mp (List.isSome_max?_of_ne_nil values)
  obtain ⟨there, above⟩ := List.max?_eq_some_iff.mp found
  have same : (largest cells).toNat = top := by
    rw [toNat_largest, List.foldl_max, found, Option.getD_some, Nat.zero_max]
  rw [same]
  refine ⟨List.mem_map.mp there, ?_⟩
  rintro value ⟨cell, listed, rfl⟩
  exact above _ (List.mem_map_of_mem listed)

end

/-! ## The account of a tape -/

def account (cells : List UInt8) (limit : Nat) : Account where
  count := (nonzero cells).length
  largest := (largest cells).toNat
  listed := ((nonzero cells).take limit).map (Prod.map id UInt8.toNat)
  omitted :=
    if (nonzero cells).length ≤ limit then none else some ((nonzero cells).length - limit)

section
variable {cells other : List UInt8} {limit : Nat}

theorem describes_account (some : nonzero cells ≠ []) :
    (account cells limit).Describes cells limit where
  count := length_nonzero cells
  largest := isGreatest_largest fun empty => some (by rw [empty]; rfl)
  length := by simp [account]
  ascending := List.pairwise_map.mpr (pairwise_nonzero cells).take
  nonzero place value there := by
    obtain ⟨⟨_, cell⟩, listed, same⟩ := List.mem_map.mp there
    cases same
    obtain ⟨found, notZero⟩ := mem_nonzero.mp (List.mem_of_mem_take listed)
    exact ⟨cell, found, notZero, rfl⟩
  first place cell found notZero := by
    have there := mem_nonzero.mpr ⟨found, notZero⟩
    have order := pairwise_nonzero cells
    rw [← List.take_append_drop limit (nonzero cells)] at there order
    cases List.mem_append.mp there with
    | inl shown => exact .inl (List.mem_map_of_mem (f := Prod.map id UInt8.toNat) shown)
    | inr left =>
      refine .inr fun pair listed => ?_
      obtain ⟨before, shown, rfl⟩ := List.mem_map.mp listed
      exact (List.pairwise_append.mp order).2.2 before shown _ left
  omitted more := by
    simp only [account]
    split <;> simp <;> omega

/-- If all nonzero cells are listed, the account tells them. -/
theorem nonzero_of_account (few : (nonzero cells).length ≤ limit)
    (same : account other limit = account cells limit) : nonzero other = nonzero cells := by
  have count : (nonzero other).length = (nonzero cells).length := congrArg Account.count same
  have listed : ((nonzero other).take limit).map (Prod.map id UInt8.toNat) =
      ((nonzero cells).take limit).map (Prod.map id UInt8.toNat) := congrArg Account.listed same
  rw [List.take_of_length_le few, List.take_of_length_le (count ▸ few)] at listed
  have apart : Function.Injective (Prod.map id UInt8.toNat : Nat × UInt8 → Nat × Nat) :=
    Function.injective_id.prodMap fun _ _ => UInt8.toNat_inj.mp
  exact (List.map_inj_right fun _ _ => @apart _ _).mp listed

/-! ## Summaries -/

theorem intercalate_toWords (account : Account) (some : account.listed ≠ []) :
    " ".intercalate account.toWords =
      "tape: " ++ account.count.repr ++ " nonzero cell(s), max=" ++ account.largest.repr ++ ": " ++
        " ".intercalate (account.listed.map pairWord) ++
        account.omitted.elim "" fun more => " ... (+" ++ more.repr ++ " more)" := by
  have pairs : account.listed.map pairWord ≠ [] := mt List.map_eq_nil_iff.mp some
  have rest : " ".intercalate (account.listed.map pairWord ++ omissionWords account.omitted) =
      " ".intercalate (account.listed.map pairWord) ++
        account.omitted.elim "" fun more => " ... (+" ++ more.repr ++ " more)" := by
    cases account.omitted with
    | none => simp [omissionWords]
    | some more =>
      have omission : omissionWords (.some more) ≠ [] := List.cons_ne_nil _ _
      rw [String.intercalate_append_of_ne_nil pairs omission]
      apply String.toList_inj.mp
      simp [omissionWords, toList_numberWord]
  rw [Account.toWords, String.intercalate_append_of_ne_nil (List.cons_ne_nil _ _)
    (List.append_ne_nil_of_left_ne_nil pairs _), rest]
  apply String.toList_inj.mp
  simp [toList_numberWord]

-- The difference is one of integers, since a limit may be negative.
theorem omission_eq (size limit : Nat) :
    (if (size : Int) ≤ limit then "" else s!" ... (+{(size : Int) - limit} more)") =
      (if size ≤ limit then none else some (size - limit)).elim "" fun more =>
        " ... (+" ++ more.repr ++ " more)" := by
  by_cases all : size ≤ limit
  · rw [if_pos (Int.ofNat_le.mpr all), if_pos all]
    rfl
  · have number : (size : Int) - limit = ((size - limit : Nat) : Int) := by omega
    rw [if_neg (mt Int.ofNat_le.mp all), if_neg all, number]
    rfl

/-- The summary of a tape that is not blank is its account in writing. -/
theorem summary_eq (positive : 1 ≤ limit) (some : nonzero cells ≠ []) :
    summary cells limit = " ".intercalate (account cells limit).toWords := by
  have found : (nonzero cells).isEmpty = false := List.isEmpty_eq_false_iff.mpr some
  have count : shownCount (nonzero cells).length limit = limit := by simp [shownCount]
  have shown : (account cells limit).listed ≠ [] := by
    simp only [account, ne_eq, List.map_eq_nil_iff, List.take_eq_nil_iff, some, or_false]
    omega
  have pairs : ((nonzero cells).take limit).map pairText =
      (account cells limit).listed.map pairWord := by
    rw [account, List.map_map]
    rfl
  rw [intercalate_toWords _ shown, ← pairs, account, ← omission_eq, summary]
  simp only [found, count]
  rfl

theorem read?_summary (positive : 1 ≤ limit) (some : nonzero cells ≠ []) :
    Account.read? (summary cells limit) = .some (account cells limit) := by
  rw [summary_eq positive some, Account.read?_toWords]

theorem summary_of_blank (none : nonzero cells = []) :
    summary cells limit = "tape: all cells zero" := by
  rw [summary, none]
  rfl

theorem summary_eq_blank (positive : 1 ≤ limit) :
    summary cells limit = "tape: all cells zero" ↔ nonzero cells = [] := by
  refine ⟨fun blank => ?_, summary_of_blank⟩
  by_contra some
  have read := read?_summary positive some
  have unread : Account.read? "tape: all cells zero" = none := by cbv
  rw [blank, unread] at read
  cases read

theorem eq_of_summary (positive : 1 ≤ limit) (length : other.length = cells.length)
    (few : cells.countP (· ≠ 0) ≤ limit) (same : summary other limit = summary cells limit) :
    other = cells := by
  refine eq_of_nonzero length ?_
  by_cases none : nonzero cells = []
  · rw [summary_of_blank none, summary_eq_blank positive] at same
    rw [same, none]
  · have noneToo : nonzero other ≠ [] := fun blank =>
      none ((summary_eq_blank positive).mp (same.symm.trans (summary_of_blank blank)))
    have read := read?_summary positive noneToo
    rw [same, read?_summary positive none, Option.some.injEq] at read
    exact nonzero_of_account (length_nonzero cells ▸ few) read.symm

/-- A summary says that a tape is blank if and only if it is, and otherwise gives the account of the
tape. If all nonzero cells are listed, no other tape of that length has the same summary. -/
theorem summary_tells (cells : List UInt8) (positive : 1 ≤ limit) :
    (summary cells limit = "tape: all cells zero" ↔ ∀ cell ∈ cells, cell = 0) ∧
      ((∃ cell ∈ cells, cell ≠ 0) → ∃ account,
        Account.read? (summary cells limit) = some account ∧ account.Describes cells limit) ∧
      ∀ other : List UInt8, other.length = cells.length → cells.countP (· ≠ 0) ≤ limit →
        summary other limit = summary cells limit → other = cells := by
  refine ⟨(summary_eq_blank positive).trans nonzero_eq_nil, fun ⟨cell, there, notZero⟩ => ?_,
    fun other => eq_of_summary positive⟩
  have some : nonzero cells ≠ [] := fun none => notZero (nonzero_eq_nil.mp none cell there)
  exact ⟨account cells limit, read?_summary positive some, describes_account some⟩

end

def sparse : List UInt8 := [0, 3, 0, 255, 7]

theorem sparse_summary_tells :
    (1 ≤ 2 ∧ ∃ account, Account.read? (summary sparse 2) = some account ∧
      account.Describes sparse 2 ∧ account.omitted = some 1) ∧
    (1 ≤ 3 ∧ sparse.countP (· ≠ 0) ≤ 3 ∧ summary [0, 3, 0, 255, 8] 3 ≠ summary sparse 3) := by
  have some : ∃ cell ∈ sparse, cell ≠ 0 := by decide
  have few : sparse.countP (· ≠ 0) ≤ 3 := by decide
  obtain ⟨account, read, describes⟩ := (@summary_tells 2 sparse (by decide)).2.1 some
  have count : account.count = 3 := describes.count
  have omitted : account.omitted = .some 1 := (describes.omitted 1).mpr (by omega)
  refine ⟨⟨by decide, account, read, describes, omitted⟩, by decide, few, fun same => ?_⟩
  exact absurd ((@summary_tells 3 sparse (by decide)).2.2 [0, 3, 0, 255, 8] rfl few same) (by decide)

end TapeLang.Trace
