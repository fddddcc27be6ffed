import Mathlib
import TapeLang.Proofs.Decimal.Numerals
import TapeLang.Proofs.Outcome
import TapeLang.Proofs.Source.Symbols
import TapeLang.Proofs.Text.Parts

/-! What a listing tells.

A line shows an instruction and where it stands in the source, and each part of it ends where no other
part could go on. So lines are told apart by what they show, and listings by their lines. -/

set_option autoImplicit false

namespace TapeLang

/-! ## The parts of a line -/

def targetText : Option Int → String
  | none => ""
  | some target => " (target: " ++ toString target ++ ")"

def placeText : Option (Int × Int) → String
  | none => ""
  | some (line, column) => "    ; line " ++ toString line ++ ", col " ++ toString column

section
variable {target other : Option Int} {place elsewhere : Option (Int × Int)}

theorem targetText_append (target : Int) (rest : List Char) :
    (targetText (some target)).toList ++ rest =
      ' ' :: '(' :: "target: ".toList ++ (target.repr.toList ++ ')' :: rest) := by
  simp only [targetText, Int.toString_eq_repr, String.toList_append, String.reduceToList,
    List.append_assoc, List.cons_append, List.nil_append]

theorem toList_placeText (line column : Int) :
    (placeText (some (line, column))).toList =
      ' ' :: ' ' :: "  ; line ".toList ++
        (line.repr.toList ++ ',' :: " col ".toList ++ column.repr.toList) := by
  simp only [placeText, Int.toString_eq_repr, String.toList_append, String.reduceToList,
    List.append_assoc, List.cons_append, List.nil_append]

theorem placeText_inj :
    (placeText place).toList = (placeText elsewhere).toList ↔ place = elsewhere := by
  refine ⟨fun same => ?_, fun same => same ▸ rfl⟩
  rcases place with _ | ⟨line, column⟩ <;> rcases elsewhere with _ | ⟨line', column'⟩
  · rfl
  · rw [toList_placeText] at same
    nomatch same
  · rw [toList_placeText] at same
    nomatch same
  · -- A comma ends the first number, and the second one goes to the end.
    have comma := Decimal.not_mem_repr (c := ',') (by decide)
    rw [toList_placeText, toList_placeText, List.append_cancel_left_eq, List.append_assoc,
      List.append_assoc, List.cons_append, List.cons_append,
      Text.append_separator_inj (comma _) (comma _), List.append_cancel_left_eq,
      String.toList_inj, String.toList_inj, Int.repr_inj, Int.repr_inj] at same
    obtain ⟨rfl, rfl⟩ := same
    rfl

/-- What follows the symbol in a line shows the target and the place. -/
theorem targetText_append_placeText_inj :
    (targetText target).toList ++ (placeText place).toList =
        (targetText other).toList ++ (placeText elsewhere).toList ↔
      target = other ∧ place = elsewhere := by
  refine ⟨fun same => ?_, fun ⟨targets, places⟩ => targets ▸ places ▸ rfl⟩
  rcases target with _ | target <;> rcases other with _ | other
  · exact ⟨rfl, placeText_inj.mp same⟩
  -- Without a target the place comes at once, after a second blank.
  · rw [targetText_append] at same
    rcases place with _ | ⟨line, column⟩
    · nomatch same
    · rw [toList_placeText] at same
      nomatch (List.cons.inj (List.cons.inj same).2).1
  · rw [targetText_append] at same
    rcases elsewhere with _ | ⟨line, column⟩
    · nomatch same
    · rw [toList_placeText] at same
      nomatch (List.cons.inj (List.cons.inj same).2).1
  · have parenthesis := Decimal.not_mem_repr (c := ')') (by decide)
    rw [targetText_append, targetText_append, List.append_cancel_left_eq,
      Text.append_separator_inj (parenthesis _) (parenthesis _), String.toList_inj, Int.repr_inj,
      placeText_inj] at same
    exact ⟨congrArg some same.1, same.2⟩

theorem newline_not_mem_targetText : '\n' ∉ (targetText target).toList := by
  rcases target with _ | target
  · exact List.not_mem_nil
  · have number : '\n' ∉ target.repr.toList := Decimal.not_mem_repr (by decide) target
    rw [← List.append_nil (targetText _).toList, targetText_append]
    simp [number]

theorem newline_not_mem_placeText : '\n' ∉ (placeText place).toList := by
  rcases place with _ | ⟨line, column⟩
  · exact List.not_mem_nil
  · have number := Decimal.not_mem_repr (c := '\n') (by decide)
    simp [toList_placeText, number]

end

/-! ## Lines -/

namespace Program

variable {p q : Program} {code other : List Instruction} {lines more : List String}

def place (program : Program) (index : Nat) : Option (Int × Int) :=
  program.locations[index]?.map fun location => (location.line, location.column)

def lineNumbers (program : Program) (index : Nat) (inst : Instruction) : List Int :=
  (program.place index).toList.flatMap (fun (line, column) => [line, column]) ++
    ↑index :: inst.target.toList

theorem listingSuffix_eq (p : Program) (index : Nat) :
    p.listingSuffix index =
      Decimal.showing ((p.place index).toList.flatMap fun (line, column) => [line, column])
        (placeText (p.place index)) := by
  unfold listingSuffix place
  cases p.locations[index]? with
  | none => rfl
  | some location =>
    dsimp only
    rw [Decimal.numeral_eq_showing, Decimal.numeral_eq_showing]
    exact Decimal.showing_bind (Decimal.showing_map _ _)

def Lists (index : Nat) (inst : Instruction) (place : Option (Int × Int)) (line : String) : Prop :=
  ∃ symbol, inst.op.symbol? = some symbol ∧
    line.toList = (Decimal.padded 4 index).toList ++
      ':' :: ' ' :: symbol :: ((targetText inst.target).toList ++ (placeText place).toList)

variable {index : Nat} {inst twin : Instruction} {place elsewhere : Option (Int × Int)}
  {line : String}

theorem Lists.isLine (lists : Lists index inst place line) : Text.IsLine line := by
  obtain ⟨symbol, known, shown⟩ := lists
  have isSymbol : symbol ≠ '\n' := by
    rintro rfl
    exact absurd (Opcode.ofSymbol?_symbol? known) nofun
  have isIndex : '\n' ∉ (Decimal.padded 4 index).toList := fun there =>
    absurd (Decimal.isDigit_of_mem_padded there) (by decide)
  refine ⟨fun empty => ?_, ?_⟩
  · rw [empty] at shown
    exact absurd shown.symm (List.append_ne_nil_of_right_ne_nil _ (List.cons_ne_nil _ _))
  · simp [shown, isSymbol.symm, isIndex, newline_not_mem_targetText, newline_not_mem_placeText]

/-- A line is that of one instruction, at one place. -/
theorem Lists.unique (lists : Lists index inst place line) (listsToo : Lists index twin elsewhere line) :
    inst = twin ∧ place = elsewhere := by
  obtain ⟨symbol, known, shown⟩ := lists
  obtain ⟨other, knownToo, shownToo⟩ := listsToo
  rw [shown, List.append_cancel_left_eq, List.cons.injEq, List.cons.injEq, List.cons.injEq,
    targetText_append_placeText_inj] at shownToo
  obtain ⟨-, -, rfl, targets, places⟩ := shownToo
  have ops : inst.op = twin.op :=
    Option.some.inj ((Opcode.ofSymbol?_symbol? known).symm.trans (Opcode.ofSymbol?_symbol? knownToo))
  obtain ⟨op, target⟩ := inst
  obtain ⟨op', target'⟩ := twin
  cases ops
  cases targets
  exact ⟨rfl, places⟩

def numbersFrom (program : Program) (index : Nat) (code : List Instruction) : List Int :=
  (code.zipIdx index).flatMap fun (inst, k) => program.lineNumbers k inst

def numbers (program : Program) : List Int := program.numbersFrom 0 program.code.toList

/-- Lines that list some instructions, of which the first has the given index. -/
structure ListsAll (p : Program) (index : Nat) (code : List Instruction) (lines : List String) :
    Prop where
  length : lines.length = code.length
  lists : ∀ k line, lines[k]? = some line →
    ∃ inst, code[k]? = some inst ∧ Lists (index + k) inst (p.place (index + k)) line

theorem ListsAll.isLine (lists : p.ListsAll index code lines) : ∀ line ∈ lines, Text.IsLine line := by
  intro line there
  obtain ⟨k, found⟩ := List.mem_iff_getElem?.mp there
  obtain ⟨inst, _, line⟩ := lists.lists k line found
  exact line.isLine

structure SameListed (p q : Program) : Prop where
  size : p.size = q.size
  code : ∀ k < p.size, p.code[k]? = q.code[k]?
  place : ∀ k < p.size, p.place k = q.place k

/-- Lines tell the instructions that they list and their places. -/
theorem ListsAll.inj (lists : p.ListsAll 0 p.code.toList lines)
    (listsToo : q.ListsAll 0 q.code.toList lines) : p.SameListed q := by
  have alike (k : Nat) (inside : k < p.size) :
      p.code[k]? = q.code[k]? ∧ p.place k = q.place k := by
    have found := List.getElem?_eq_getElem (lists.length.symm ▸ inside : k < lines.length)
    obtain ⟨inst, here, line⟩ := lists.lists k _ found
    obtain ⟨twin, there, lineToo⟩ := listsToo.lists k _ found
    obtain ⟨rfl, places⟩ := line.unique lineToo
    rw [Array.getElem?_toList] at here there
    rw [Nat.zero_add] at places
    exact ⟨here.trans there.symm, places⟩
  exact ⟨lists.length.symm.trans listsToo.length, fun k inside => (alike k inside).1,
    fun k inside => (alike k inside).2⟩

/-- A line depends on the program through the place of its instruction only. -/
theorem listingLines_congr (places : ∀ k < code.length, p.place (index + k) = q.place (index + k)) :
    p.listingLines index code = q.listingLines index code := by
  induction code generalizing index with
  | nil => rfl
  | cons inst code ih =>
    have first : p.place index = q.place index := places 0 (Nat.succ_pos _)
    rw [listingLines, listingLines, listingLine, listingLine, listingSuffix_eq, listingSuffix_eq,
      first, ih]
    intro k inside
    rw [show index + 1 + k = index + (k + 1) by omega]
    exact places (k + 1) (Nat.succ_lt_succ inside)

theorem SameListed.listing (same : p.SameListed q) : p.listing = q.listing := by
  have code : p.code = q.code := by
    refine Array.ext_getElem? fun k => ?_
    by_cases inside : k < p.size
    · exact same.code k inside
    · have insideToo : ¬ k < q.size := same.size ▸ inside
      rw [Array.getElem?_eq_none (Nat.le_of_not_lt inside),
        Array.getElem?_eq_none (Nat.le_of_not_lt insideToo)]
  rw [Program.listing, Program.listing, ← code, listingLines_congr fun k inside => ?_]
  rw [Nat.zero_add]
  exact same.place k inside

/-- A loop that was not loaded: its targets lead nowhere, and only its first bracket has a place. -/
def stray : Program where
  code := #[⟨.jumpIfZero, some (-7)⟩, ⟨.jumpIfNonZero, none⟩]
  locations := #[⟨"", 0, -1, "["⟩]

def settled : Program := { stray with locations := stray.locations.push ⟨"", 12, 3, "]"⟩ }

end Program

end TapeLang
