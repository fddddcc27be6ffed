import TapeLang.Proofs.Source.Scanning

/-! When a text has a program, and what is said if it has none.

A text has a program exactly if its brackets are balanced. A closer that runs ahead is reported at
once, whatever comes after it; otherwise the last opener that stays open is reported, with the
number of those that do. -/

set_option autoImplicit false

namespace TapeLang

open Scan

variable {text filename : String}

theorem load_of_readAll {scan : Scan} (whole : readAll filename {} text.toList = .ok scan)
    (closed : scan.openings = []) :
    load text filename = .ok ⟨scan.code, scan.locations, filename⟩ := by
  simp [load, scanText, whole, finish, closed, bind, Except.bind, pure, Except.pure]

theorem load_of_readAll_open {scan : Scan} {opening : Nat} {location : SourceLocation}
    {openings : List (Nat × SourceLocation)} (whole : readAll filename {} text.toList = .ok scan)
    (inside : scan.openings = (opening, location) :: openings) :
    load text filename = .error (.unmatchedOpen location (openings.length + 1)) := by
  simp [load, scanText, whole, finish, inside, bind, Except.bind]

theorem load_of_readAll_error {stopped : Stopped}
    (fails : readAll filename {} text.toList = .error stopped) :
    load text filename = .error stopped.error := by
  simp [load, scanText, fails, bind, Except.bind]

-- A text that is read as a block has the block's code for its program.
theorem load_of_reads {block : Block} (reads : block.Reads text.toList) :
    load text filename =
      .ok ⟨(block.code 0).toArray,
        (({} : Cursor).commandLocations filename text.toList).toArray, filename⟩ := by
  obtain ⟨last, whole, adds⟩ := readAll_of_reads filename reads {}
  rw [load_of_readAll whole adds.openings]
  have code : last.code = (block.code 0).toArray := Array.toList_inj.mp (by rw [adds.code]; rfl)
  have locations : last.locations =
      (({} : Cursor).commandLocations filename text.toList).toArray :=
    Array.toList_inj.mp (by rw [adds.locations]; rfl)
  rw [code, locations]

-- Reading stops at a closer that runs ahead, with the cursor still before it.
theorem readAll_of_excess {before after : List Char}
    (split : text.toList = before ++ ']' :: after) (balanced : Balanced '[' ']' before) :
    readAll filename {} text.toList =
      .error ⟨.unmatchedClose (locationAfter filename before ']'), ({} : Cursor).passAll before⟩ := by
  obtain ⟨block, reads⟩ := Block.exists_reads balanced
  obtain ⟨last, start, adds⟩ := readAll_of_reads filename reads {}
  rw [split, readAll_append start, readAll_cons_error (read_closing_outside adds.openings),
    adds.cursor, Cursor.locate_passAll]

theorem load_of_excess {before after : List Char}
    (split : text.toList = before ++ ']' :: after) (balanced : Balanced '[' ']' before) :
    load text filename = .error (.unmatchedClose (locationAfter filename before ']')) :=
  load_of_readAll_error (readAll_of_excess split balanced)

theorem load_of_open {before after : List Char} (split : text.toList = before ++ '[' :: after)
    (fits : NoExcess '[' ']' before) (balanced : Balanced '[' ']' after) :
    load text filename = .error (.unmatchedOpen (locationAfter filename before '[')
      (text.toList.count '[' - text.toList.count ']')) := by
  obtain ⟨middle, start, cursor, openings⟩ := readAll_of_noExcess filename fits
  obtain ⟨block, reads⟩ := Block.exists_reads balanced
  obtain ⟨last, goesOn, adds⟩ := readAll_of_reads filename reads
    (middle.enter filename '[')
  have whole : readAll filename {} text.toList = .ok last := by
    rw [split, readAll_append start, readAll_cons read_opening, goesOn]
  -- What follows the opener is balanced and adds nothing to the difference.
  have unclosed : middle.openings.length + 1 =
      text.toList.count '[' - text.toList.count ']' := by
    have within := fits.count_le
    simp only [split, openings, List.count_append, List.count_cons_self,
      List.count_cons_of_ne (show '[' ≠ ']' by decide), balanced.total]
    omega
  rw [load_of_readAll_open whole adds.openings, unclosed, ← Cursor.locate_passAll, ← cursor]
  rfl

theorem load_ok_iff : (∃ program, load text filename = .ok program) ↔
    Balanced '[' ']' text.toList := by
  constructor
  · rintro ⟨program, loaded⟩
    by_cases fits : NoExcess '[' ']' text.toList
    · refine ⟨fits, ?_⟩
      by_contra unequal
      have within := fits.count_le
      obtain ⟨before, after, split, balanced⟩ :=
        exists_last_open (show text.toList.count ']' < text.toList.count '[' by omega)
      rw [load_of_open split (split ▸ fits).of_append balanced] at loaded
      cases loaded
    · obtain ⟨before, after, split, balanced⟩ := hasCloser_of_not_noExcess fits
      rw [load_of_excess split balanced] at loaded
      cases loaded
  · intro balanced
    obtain ⟨block, reads⟩ := Block.exists_reads balanced
    exact ⟨_, load_of_reads reads⟩

-- The reading of a text that has a program, and the program.
theorem exists_reads_of_load {program : Program} (loaded : load text filename = .ok program) :
    ∃ block : Block, block.Reads text.toList ∧ program.code = (block.code 0).toArray ∧
      program.locations = (({} : Cursor).commandLocations filename text.toList).toArray ∧
      program.filename = filename := by
  obtain ⟨block, reads⟩ := Block.exists_reads (load_ok_iff.mp ⟨program, loaded⟩)
  rw [load_of_reads reads] at loaded
  cases loaded
  exact ⟨block, reads, rfl, rfl, rfl⟩

section
variable {program : Program} (loaded : load text filename = .ok program)
include loaded

-- An instruction comes from a character.
theorem size_le_of_load : program.size ≤ text.length := by
  obtain ⟨block, reads, code, _⟩ := exists_reads_of_load loaded
  have ops : (text.toList.filterMap Opcode.ofSymbol?).length = block.size := by
    rw [reads.ops_eq, ← block.map_op_code 0, List.length_map, block.length_code]
  rw [Program.size, code, List.size_toArray, block.length_code, ← ops, ← String.length_toList]
  exact List.length_filterMap_le ..

theorem location_le_of_load {k : Nat} {location : SourceLocation}
    (stands : program.locations[k]? = some location) :
    location.line.natAbs ≤ text.length ∧ location.column.natAbs ≤ text.length := by
  obtain ⟨_, _, _, locations, _⟩ := exists_reads_of_load loaded
  have listed := Array.mem_of_getElem? stands
  rw [locations, List.mem_toArray] at listed
  rw [← String.length_toList]
  exact Cursor.le_of_mem_commandLocations listed

end

/-- The three ways in which loading can end, told from the brackets of the text alone. -/
theorem load_diagnosis (text filename : String) :
    ((∃ program, load text filename = .ok program) ↔ Balanced '[' ']' text.toList) ∧
    (¬ NoExcess '[' ']' text.toList →
      ∃ before after, text.toList = before ++ ']' :: after ∧
        NoExcess '[' ']' before ∧ ¬ NoExcess '[' ']' (before ++ [']']) ∧
        ∀ other : String, before ++ [']'] <+: other.toList →
          ∃ error, load other filename = .error error ∧ error.kind = "UnmatchedClose" ∧
            error.location = locationAfter filename before ']' ∧
            error.message =
              "Encountered ']' without corresponding '[' at " ++ error.location.text) ∧
    (NoExcess '[' ']' text.toList → text.toList.count ']' < text.toList.count '[' →
      ∃ before after, text.toList = before ++ '[' :: after ∧ ¬ HasCloser '[' ']' after ∧
        (∀ middle rest, after = middle ++ '[' :: rest → HasCloser '[' ']' rest) ∧
        ∃ error, load text filename = .error error ∧ error.kind = "UnmatchedOpen" ∧
          error.location = locationAfter filename before '[' ∧
          error.message = "Unbalanced '[' at " ++ error.location.text ++ ": " ++
            toString (text.toList.count '[' - text.toList.count ']') ++
            " bracket(s) never closed") := by
  refine ⟨load_ok_iff, ?_, ?_⟩
  · intro excess
    obtain ⟨before, after, split, balanced⟩ := hasCloser_of_not_noExcess excess
    refine ⟨before, after, split, balanced.noExcess, ?_, ?_⟩
    · exact (hasCloser_iff (by decide)).mp ⟨before, [], rfl, balanced⟩
    -- The texts with this start are all stopped at its last character.
    · rintro other ⟨following, same⟩
      have otherSplit : other.toList = before ++ ']' :: following := by simp [← same]
      exact ⟨_, load_of_excess otherSplit balanced, rfl, rfl, rfl⟩
  · intro fits more
    obtain ⟨before, after, split, balanced⟩ := exists_last_open more
    refine ⟨before, after, split, ?_, ?_, ?_⟩
    · intro closes
      exact (hasCloser_iff (by decide)).mp closes balanced.noExcess
    · rintro middle rest rfl
      exact balanced.hasCloser_of_split (by decide)
    · exact ⟨_, load_of_open split (split ▸ fits).of_append balanced, rfl, rfl, rfl⟩

-- A closer that runs ahead is reported although an opener is left over, and of two openers that
-- are left over the last one is.
theorem load_diagnosis_brackets :
    (∃ before after, "+[]\n]-[".toList = before ++ ']' :: after ∧
      ∃ error, load "+[]\n]-[" "a" = .error error ∧ error.kind = "UnmatchedClose" ∧
        error.location = locationAfter "a" before ']') ∧
    ∃ before after, "[+[\n[-]".toList = before ++ '[' :: after ∧
      ∃ error, load "[+[\n[-]" "a" = .error error ∧ error.kind = "UnmatchedOpen" ∧
        error.location = locationAfter "a" before '[' ∧
        error.message = "Unbalanced '[' at " ++ error.location.text ++ ": " ++ toString 2 ++
          " bracket(s) never closed" := by
  constructor
  · obtain ⟨before, after, split, _, _, fails⟩ :=
      (load_diagnosis "+[]\n]-[" "a").2.1 (by decide)
    obtain ⟨error, failed, kind, place, _⟩ := fails "+[]\n]-[" ⟨after, by simp [split]⟩
    exact ⟨before, after, split, error, failed, kind, place⟩
  · obtain ⟨before, after, split, _, _, error, failed, kind, place, message⟩ :=
      (load_diagnosis "[+[\n[-]" "a").2.2 (by decide) (by decide)
    have two : "[+[\n[-]".toList.count '[' - "[+[\n[-]".toList.count ']' = 2 := by decide
    rw [two] at message
    exact ⟨before, after, split, error, failed, kind, place, message⟩

end TapeLang
