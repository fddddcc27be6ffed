import TapeLang.Proofs.Decimal.Numerals
import TapeLang.Proofs.Machine.Range
import TapeLang.Proofs.Report.Json
import TapeLang.Report.Text

/-! What the lines of a report as text tell, and how they go with the report in JSON. -/

set_option autoImplicit false

namespace TapeLang.Report

/-! ## Reading lines -/

def numberAfter (skipped : Nat) (line : String) : Nat :=
  Nat.ofDigitChars 10 ((line.toList.drop skipped).takeWhile Char.isDigit) 0

def isOmission (line : String) : Bool := "  ... ".toList.isPrefixOf line.toList

def isStep (line : String) : Bool := "    Step: ".toList.isPrefixOf line.toList

def isTape (line : String) : Bool := "    Tape @".toList.isPrefixOf line.toList

/-- How many steps the lines of a report say they leave out: none if they say nothing. -/
def omittedSteps (lines : List String) : Nat := ((lines.find? isOmission).map (numberAfter 6)).getD 0

def shownSteps (lines : List String) : List Nat := (lines.filter isStep).map (numberAfter 10)

def shownCells (line : String) : List (List Char) := (line.toList.splitOn ' ').drop 6

/-- A cell that is written with exactly three digits. -/
def IsTriple (digits : List Char) : Prop := digits.length = 3 ∧ ∀ c ∈ digits, c.isDigit

/-! ## Numbers -/

section
variable {n width : Nat}

theorem takeWhile_repr (n : Nat) {c : Char} (ends : c.isDigit = false) (rest : List Char) :
    (n.repr.toList ++ c :: rest).takeWhile Char.isDigit = n.repr.toList := by
  rw [List.takeWhile_append_of_pos fun _ there => Decimal.isDigit_of_mem_repr there,
    List.takeWhile_cons_of_neg (by simp [ends]), List.append_nil]

/-- A number is read off a line on which it comes after other characters and before a blank. -/
theorem numberAfter_eq {line : String} {before rest : List Char}
    (written : line.toList = before ++ (n.repr.toList ++ ' ' :: rest)) {skipped : Nat}
    (length : before.length = skipped) : numberAfter skipped line = n := by
  rw [numberAfter, written, List.drop_left' length, takeWhile_repr n (by decide), Nat.toList_repr,
    Nat.ofDigitChars_ten_toDigits]

theorem value_padded : Nat.ofDigitChars 10 (Decimal.padded width n).toList 0 = n := by
  rw [Decimal.toList_padded, Nat.ofDigitChars_append, Nat.ofDigitChars_replicate_zero, Nat.mul_zero,
    Nat.toList_repr, Nat.ofDigitChars_ten_toDigits]

theorem isTriple_padded (cell : UInt8) : IsTriple (Decimal.padded 3 cell.toNat).toList := by
  refine ⟨?_, fun c there => Decimal.isDigit_of_mem_padded there⟩
  have few : cell.toNat.repr.length ≤ 3 :=
    (Nat.length_repr_le_iff (by decide)).mpr (Nat.lt_trans cell.toNat_lt (by decide))
  simp only [Decimal.toList_padded, List.length_append, List.length_replicate, String.length_toList]
  omega

end

/-! ## The kinds of line -/

section
variable {entry : LogEntry} {window : Tape.Window} {error : RunError}

-- Interpolated texts are joined as they are.
theorem toString_text (s : String) : toString s = s := rfl

/-- A line that tells of no step's number and of no cells. -/
structure IsOther (line : String) : Prop where
  omission : isOmission line = false
  step : isStep line = false
  tape : isTape line = false

theorem isOther_header : IsOther "Traceback (most recent step last):" :=
  ⟨by decide, by decide, by decide⟩

theorem isOther_placeLine (entry : LogEntry) : IsOther (placeLine entry) := by
  unfold placeLine
  cases entry.location <;>
    exact ⟨by simp [isOmission, toString_text, List.isPrefixOf],
      by simp [isStep, toString_text, List.isPrefixOf],
      by simp [isTape, toString_text, List.isPrefixOf]⟩

def OwnError (error : RunError) : Prop := error.IsOrdinary ∨ error.kind = "Internal"

theorem isOther_errorLine (own : OwnError error) : IsOther (errorLine error) := by
  unfold errorLine
  rcases own with (kind | kind) | kind <;>
    exact ⟨by simp [isOmission, toString_text, List.isPrefixOf, kind],
      by simp [isStep, toString_text, List.isPrefixOf, kind],
      by simp [isTape, toString_text, List.isPrefixOf, kind]⟩

theorem isStep_stepLine (entry : LogEntry) : isStep (stepLine entry) := by
  simp [isStep, stepLine, toString_text]

theorem isTape_stepLine (entry : LogEntry) : isTape (stepLine entry) = false := by
  simp [isTape, stepLine, toString_text, List.isPrefixOf]

theorem isOmission_stepLine (entry : LogEntry) : isOmission (stepLine entry) = false := by
  simp [isOmission, stepLine, toString_text, List.isPrefixOf]

theorem isTape_windowLine (window : Tape.Window) : isTape (windowLine window) := by
  simp [isTape, windowLine, toString_text]

theorem isStep_windowLine (window : Tape.Window) : isStep (windowLine window) = false := by
  simp [isStep, windowLine, toString_text, List.isPrefixOf]

theorem isOmission_windowLine (window : Tape.Window) : isOmission (windowLine window) = false := by
  simp [isOmission, windowLine, toString_text, List.isPrefixOf]

theorem numberAfter_stepLine (entry : LogEntry) : numberAfter 10 (stepLine entry) = entry.stepIndex := by
  have written : (stepLine entry).toList = "    Step: ".toList ++ (entry.stepIndex.repr.toList ++
      ' ' :: s!" ptr={entry.pointer}  cell={entry.cell}".toList) := by
    simp [stepLine, toString_text]
  exact numberAfter_eq written (by simp)

theorem shownCells_windowLine (some : window.cells ≠ []) :
    shownCells (windowLine window) =
      window.cells.map fun cell => (Decimal.padded 3 cell.toNat).toList := by
  let cells := window.cells.map fun cell => (Decimal.padded 3 cell.toNat).toList
  have written : (windowLine window).toList =
      [] ++ ' ' :: ([] ++ ' ' :: ([] ++ ' ' :: ([] ++ ' ' :: ("Tape".toList ++ ' ' ::
        ('@' :: window.start.repr.toList ++ [':'] ++ ' ' :: [' '].intercalate cells))))) := by
    simp [windowLine, toString_text, cells, Function.comp_def]
  have split : ([' '].intercalate cells).splitOn ' ' = cells := by
    refine List.splitOn_intercalate ' ' ?_ (mt List.map_eq_nil_iff.mp some)
    intro digits there
    obtain ⟨cell, _, rfl⟩ := List.mem_map.mp there
    exact fun blank => absurd (Decimal.isDigit_of_mem_padded blank) (by decide)
  have place : ' ' ∉ '@' :: window.start.repr.toList ++ [':'] := by
    simp only [List.cons_append, List.mem_cons, List.mem_append, List.not_mem_nil, or_false]
    rintro (at' | blank | colon)
    · cases at'
    · exact absurd (Decimal.isDigit_of_mem_repr blank) (by decide)
    · cases colon
  simp only [shownCells, written, List.splitOn_append_cons_self, split,
    List.splitOn_eq_singleton place]
  rfl

end

/-! ## The lines of a step -/

def StepNote.entry (step : StepNote) : LogEntry where
  stepIndex := step.stepIndex
  pc := step.pc
  op := Opcode.ofName step.op
  pointer := step.pointer
  cell := step.cell
  location := step.place.map fun place => ⟨place.file, place.line, place.column, ""⟩
  window := step.window

def StepNote.lines (shown : Bool) (step : StepNote) : List String := entryLines shown step.entry

theorem ofName_name {op : Opcode} (known : op ∈ Opcode.known) : Opcode.ofName op.name = op := by
  revert op
  decide

section
variable {entry : LogEntry} {verbose shown : Bool}

theorem lines_noteStep (known : entry.op ∈ Opcode.known) (shown : Bool) :
    (noteStep entry).lines shown = entryLines shown entry := by
  obtain ⟨stepIndex, pc, op, pointer, cell, location, window⟩ := entry
  rw [StepNote.lines, StepNote.entry, noteStep, ofName_name known]
  cases location <;> rfl

def windowLines (shown : Bool) (entry : LogEntry) : List String :=
  if shown then (entry.window.map windowLine).toList else []

theorem entryLines_eq (shown : Bool) (entry : LogEntry) :
    entryLines shown entry = placeLine entry :: stepLine entry :: windowLines shown entry := by
  unfold entryLines windowLines
  cases shown <;> cases entry.window <;> rfl

theorem mem_windowLines {line : String} (there : line ∈ windowLines shown entry) :
    ∃ window, entry.window = some window ∧ line = windowLine window := by
  unfold windowLines at there
  split at there
  · cases window : entry.window with
    | none =>
      rw [window] at there
      cases there
    | some found =>
      rw [window] at there
      exact ⟨found, rfl, List.mem_singleton.mp there⟩
  · cases there

theorem filter_isStep (shown : Bool) (entry : LogEntry) :
    (entryLines shown entry).filter isStep = [stepLine entry] := by
  have none : (windowLines shown entry).filter isStep = [] := by
    rw [List.filter_eq_nil_iff]
    intro line there
    obtain ⟨window, _, rfl⟩ := mem_windowLines there
    simp [isStep_windowLine]
  rw [entryLines_eq, List.filter_cons_of_neg (by simp [(isOther_placeLine entry).step]),
    List.filter_cons_of_pos (isStep_stepLine entry), none]

theorem filter_isTape (shown : Bool) (entry : LogEntry) :
    (entryLines shown entry).filter isTape = windowLines shown entry := by
  have all : (windowLines shown entry).filter isTape = windowLines shown entry := by
    rw [List.filter_eq_self]
    intro line there
    obtain ⟨window, _, rfl⟩ := mem_windowLines there
    exact isTape_windowLine window
  rw [entryLines_eq, List.filter_cons_of_neg (by simp [(isOther_placeLine entry).tape]),
    List.filter_cons_of_neg (by simp [isTape_stepLine]), all]

theorem filter_not_isTape (entry : LogEntry) :
    (entryLines true entry).filter (fun line => !isTape line) = entryLines false entry := by
  have none : (windowLines true entry).filter (fun line => !isTape line) = [] := by
    rw [List.filter_eq_nil_iff]
    intro line there
    obtain ⟨window, _, rfl⟩ := mem_windowLines there
    simp [isTape_windowLine]
  rw [entryLines_eq, List.filter_cons_of_pos (by simp [(isOther_placeLine entry).tape]),
    List.filter_cons_of_pos (by simp [isTape_stepLine]), none, entryLines_eq]
  rfl

theorem isOmission_entryLines {line : String} (there : line ∈ entryLines shown entry) :
    isOmission line = false := by
  rw [entryLines_eq, List.mem_cons, List.mem_cons] at there
  rcases there with rfl | rfl | there
  · exact (isOther_placeLine entry).omission
  · exact isOmission_stepLine entry
  · obtain ⟨window, _, rfl⟩ := mem_windowLines there
    exact isOmission_windowLine window

end

/-! ## The lines of a report -/

section
variable {log : StepLog} {error : RunError} {verbose : Bool}

theorem isOther_omittedLines :
    ∀ line ∈ omittedLines log, isStep line = false ∧ isTape line = false := by
  intro line there
  unfold omittedLines at there
  split at there
  · obtain rfl := List.mem_singleton.mp there
    exact ⟨by simp [isStep, toString_text, List.isPrefixOf],
      by simp [isTape, toString_text, List.isPrefixOf]⟩
  · cases there

def openingLines (log : StepLog) : List String :=
  "Traceback (most recent step last):" :: omittedLines log

theorem textLines_eq (shown : Bool) : textLines log error shown =
    openingLines log ++ log.entries.toList.flatMap (entryLines shown) ++ [errorLine error] := rfl

theorem isOther_openingLines :
    ∀ line ∈ openingLines log, isStep line = false ∧ isTape line = false :=
  List.forall_mem_cons.mpr ⟨⟨isOther_header.step, isOther_header.tape⟩, isOther_omittedLines⟩

theorem filter_textLines (p : String → Bool) (shown : Bool) :
    (textLines log error shown).filter p = (openingLines log).filter p ++
      log.entries.toList.flatMap (fun entry => (entryLines shown entry).filter p) ++
      [errorLine error].filter p := by
  rw [textLines_eq, List.filter_append, List.filter_append, List.filter_flatMap]

theorem filter_isStep_textLines (own : OwnError error) (shown : Bool) :
    (textLines log error shown).filter isStep = log.entries.toList.map stepLine := by
  have opening : (openingLines log).filter isStep = [] := by
    simpa using fun line there => (isOther_openingLines line there).1
  have closing : [errorLine error].filter isStep = [] := by
    simp [(isOther_errorLine own).step]
  rw [filter_textLines, opening, closing, List.nil_append, List.append_nil]
  simp only [filter_isStep]
  exact List.map_eq_flatMap.symm

theorem filter_isTape_textLines (own : OwnError error) (shown : Bool) :
    (textLines log error shown).filter isTape = log.entries.toList.flatMap (windowLines shown) := by
  have opening : (openingLines log).filter isTape = [] := by
    simpa using fun line there => (isOther_openingLines line there).2
  have closing : [errorLine error].filter isTape = [] := by
    simp [(isOther_errorLine own).tape]
  rw [filter_textLines, opening, closing, List.nil_append, List.append_nil]
  simp only [filter_isTape]

theorem textLines_false (own : OwnError error) : textLines log error false =
    (textLines log error true).filter fun line => !isTape line := by
  have opening : (openingLines log).filter (fun line => !isTape line) = openingLines log := by
    simpa using fun line there => (isOther_openingLines line there).2
  have closing : [errorLine error].filter (fun line => !isTape line) = [errorLine error] := by
    simp [(isOther_errorLine own).tape]
  rw [textLines_eq, filter_textLines, opening, closing]
  simp only [filter_not_isTape]

theorem shownSteps_textLines (own : OwnError error) (shown : Bool) :
    shownSteps (textLines log error shown) = (noteSteps log).map (·.stepIndex) := by
  rw [shownSteps, filter_isStep_textLines own, noteSteps, List.map_map, List.map_map]
  refine List.map_congr_left fun entry _ => ?_
  rw [Function.comp_apply, numberAfter_stepLine]
  rfl

theorem omittedSteps_textLines (own : OwnError error) (shown : Bool) :
    omittedSteps (textLines log error shown) = log.stepCount - log.entries.size := by
  have entries : (log.entries.toList.flatMap (entryLines shown)).find? isOmission = none := by
    simp only [List.find?_eq_none, List.mem_flatMap]
    rintro line ⟨entry, _, there⟩
    simp [isOmission_entryLines there]
  have closing : [errorLine error].find? isOmission = none := by
    simp [(isOther_errorLine own).omission]
  have first : isOmission "Traceback (most recent step last):" = false := isOther_header.omission
  rw [omittedSteps, textLines_eq, List.find?_append, List.find?_append, entries, closing, openingLines,
    List.find?_cons_of_neg (by simp [first])]
  unfold omittedLines
  split
  · rename_i more
    let line := s!"  ... {log.stepCount - log.entries.size} earlier step(s) omitted"
    have isFirst : isOmission line := by simp [isOmission, line, toString_text]
    have written : line.toList = "  ... ".toList ++ ((log.stepCount - log.entries.size).repr.toList ++
        ' ' :: "earlier step(s) omitted".toList) := by
      simp [line, toString_text]
    rw [List.find?_cons_of_pos isFirst, Option.some_or, Option.some_or, Option.map_some,
      Option.getD_some, numberAfter_eq written (by simp)]
  · rename_i all
    have none : log.stepCount - log.entries.size = 0 := by omega
    rw [none]
    rfl

end

/-! ## Both reports -/

/-- An entry for a known operation, with a window if the log is verbose; a window has cells. -/
structure IsLogged (verbose : Bool) (entry : LogEntry) : Prop where
  known : entry.op ∈ Opcode.known
  window : entry.window.isSome = verbose
  cells : ∀ window, entry.window = some window → window.cells ≠ []

structure Agree (verbose : Bool) (log : StepLog) (error : RunError) : Prop where
  /-- A report as text has these lines. -/
  written : ∀ shown report, write log error shown = .ok report →
    report = "\n".intercalate (textLines log error shown)
  /-- The report in JSON has the notes of the steps. -/
  document : ∃ document, readNotes? document = some (noteError error, noteSteps log) ∧
    ∀ report, json log error = .ok report → Json.Document document report.toList
  /-- The text has the lines of the same steps in the same order, and shows no others. -/
  steps : ∀ shown, ∃ opening closing, textLines log error shown =
    opening ++ (noteSteps log).flatMap (StepNote.lines shown) ++ closing ∧
      ∀ line ∈ opening ++ closing, isStep line = false ∧ isTape line = false
  indices : ∀ shown, shownSteps (textLines log error shown) = (noteSteps log).map (·.stepIndex)
  /-- Steps that are left out and steps that are shown make up all the steps. -/
  stepCount : ∀ shown, omittedSteps (textLines log error shown) +
    (shownSteps (textLines log error shown)).length = log.stepCount
  /-- Without the tape lines the text is the one that does not show them. -/
  terse : textLines log error false = (textLines log error true).filter fun line => !isTape line
  /-- One tape line for each step if the log is verbose, and none otherwise. -/
  tapes : (textLines log error true).countP isTape = if verbose then (noteSteps log).length else 0
  tape : ∀ step ∈ noteSteps log, (step.lines true).countP isTape = if verbose then 1 else 0
  /-- The cells on tape lines are written with three digits, and are those of the windows. -/
  digits : ∀ line ∈ textLines log error true, isTape line → ∀ cell ∈ shownCells line, IsTriple cell
  cells : ((textLines log error true).filter isTape).map
      (fun line => (shownCells line).map (Nat.ofDigitChars 10 · 0)) =
    (noteSteps log).filterMap fun step => step.window.map fun window => window.cells.map (·.toNat)

section
variable {log : StepLog} {error : RunError} {verbose : Bool} {entry : LogEntry}

def windows (log : StepLog) : List Tape.Window := log.entries.toList.filterMap (·.window)

theorem windows_noteSteps : (noteSteps log).filterMap (·.window) = windows log := by
  rw [noteSteps, List.filterMap_map]
  rfl

theorem tapeLines (own : OwnError error) :
    (textLines log error true).filter isTape = (windows log).map windowLine := by
  rw [filter_isTape_textLines own, windows, List.map_filterMap]
  exact (List.filterMap_eq_flatMap_toList ..).symm

theorem length_windows (logged : ∀ entry ∈ log.entries.toList, IsLogged verbose entry) :
    (windows log).length = if verbose then (noteSteps log).length else 0 := by
  rw [windows, List.length_filterMap_eq_countP, noteSteps, List.length_map]
  split
  · rename_i verbose
    exact List.countP_eq_length.mpr fun entry there => (logged entry there).window.trans verbose
  · rename_i bare
    exact List.countP_eq_zero.mpr fun entry there => (logged entry there).window ▸ bare

theorem shownCells_tapeLine
    (logged : ∀ entry ∈ log.entries.toList, IsLogged verbose entry) {window : Tape.Window}
    (there : window ∈ windows log) : shownCells (windowLine window) =
      window.cells.map fun cell => (Decimal.padded 3 cell.toNat).toList := by
  obtain ⟨entry, kept, found⟩ := List.mem_filterMap.mp there
  exact shownCells_windowLine ((logged entry kept).cells window found)

theorem countP_lines (logged : IsLogged verbose entry) :
    ((noteStep entry).lines true).countP isTape = if verbose then 1 else 0 := by
  rw [lines_noteStep logged.known, List.countP_eq_length_filter, filter_isTape, ← logged.window]
  unfold windowLines
  cases entry.window <;> rfl

theorem length_noteSteps (log : StepLog) : (noteSteps log).length = log.entries.size := by
  rw [noteSteps, List.length_map, Recent.toList, List.length_reverse]
  rfl

theorem textLines_notes (logged : ∀ entry ∈ log.entries.toList, IsLogged verbose entry)
    (shown : Bool) : textLines log error shown =
      openingLines log ++ (noteSteps log).flatMap (StepNote.lines shown) ++ [errorLine error] := by
  have same : (noteSteps log).flatMap (StepNote.lines shown) =
      log.entries.toList.flatMap (entryLines shown) := by
    rw [noteSteps, List.flatMap_map]
    exact List.flatMap_congr fun entry there => lines_noteStep (logged entry there).known shown
  rw [textLines_eq, same]

theorem isTriple_of_mem_tapeLine (own : OwnError error)
    (logged : ∀ entry ∈ log.entries.toList, IsLogged verbose entry) {line : String}
    (there : line ∈ textLines log error true) (isLine : isTape line) {cell : List Char}
    (shown : cell ∈ shownCells line) : IsTriple cell := by
  have listed : line ∈ (textLines log error true).filter isTape :=
    List.mem_filter.mpr ⟨there, isLine⟩
  rw [tapeLines own] at listed
  obtain ⟨window, kept, rfl⟩ := List.mem_map.mp listed
  rw [shownCells_tapeLine logged kept] at shown
  obtain ⟨value, _, rfl⟩ := List.mem_map.mp shown
  exact isTriple_padded value

theorem values_tapeLines (own : OwnError error)
    (logged : ∀ entry ∈ log.entries.toList, IsLogged verbose entry) :
    ((textLines log error true).filter isTape).map
        (fun line => (shownCells line).map (Nat.ofDigitChars 10 · 0)) =
      (windows log).map fun window => window.cells.map (·.toNat) := by
  rw [tapeLines own, List.map_map]
  refine List.map_congr_left fun window kept => ?_
  rw [Function.comp_apply, shownCells_tapeLine logged kept, List.map_map]
  refine List.map_congr_left fun cell _ => ?_
  rw [Function.comp_apply, value_padded]

theorem agree (own : OwnError error) (atMost : log.entries.size ≤ log.stepCount)
    (logged : ∀ entry ∈ log.entries.toList, IsLogged verbose entry) : Agree verbose log error where
  written _ _ wrote := (Failure.ofWriting_showing_eq_ok.mp wrote).2
  document := ⟨_, readNotes?_jsonValue log error, fun _ => document_json⟩
  steps shown := by
    refine ⟨openingLines log, [errorLine error], textLines_notes logged shown, fun line there => ?_⟩
    cases List.mem_append.mp there with
    | inl opening => exact isOther_openingLines line opening
    | inr closing =>
      rw [List.mem_singleton.mp closing]
      exact ⟨(isOther_errorLine own).step, (isOther_errorLine own).tape⟩
  indices := shownSteps_textLines own
  stepCount shown := by
    rw [omittedSteps_textLines own, shownSteps_textLines own, List.length_map,
      length_noteSteps]
    omega
  terse := textLines_false own
  tapes := by
    rw [List.countP_eq_length_filter, tapeLines own, List.length_map, length_windows logged]
  tape step there := by
    obtain ⟨entry, kept, rfl⟩ := List.mem_map.mp there
    exact countP_lines (logged entry kept)
  digits line there isLine cell shown := isTriple_of_mem_tapeLine own logged there isLine shown
  cells := by
    rw [values_tapeLines own logged, ← List.map_filterMap, windows_noteSteps]

end

/-! ## Numbers -/

section
variable {log : StepLog} {error : RunError} {entry : LogEntry} {shown : Bool} {n : Int}

theorem mem_numbers_of_entry (there : n ∈ entryNumbers shown entry) :
    n ∈ (noteStep entry).numbers := by
  obtain ⟨_, _, _, _, _, location, window⟩ := entry
  cases location <;> cases window <;> cases shown <;>
    simp only [entryNumbers, placeNumbers, noteStep, StepNote.numbers, windowNumbers, notePlace,
      PlaceNote.numbers, Option.map_some, Option.map_none, Option.elim_some, Option.elim_none,
      List.mem_append, List.mem_cons, List.not_mem_nil] at there ⊢ <;>
    tauto

theorem mem_numbers_of_error (there : n ∈ errorNumbers error) : n ∈ (noteError error).numbers := by
  unfold errorNumbers at there
  split at there
  · rename_i counter
    simp only [noteError, ErrorNote.numbers, counter, Option.toList_some]
    exact List.mem_append_left _ there
  · cases there

/-- A report as text shows the numbers of the notes only, apart from how many steps it leaves out. -/
theorem mem_noteNumbers (there : n ∈ textNumbers log error shown) :
    n ∈ omittedNumbers log ∨ n ∈ noteNumbers log error := by
  rcases List.mem_append.mp there with there | there
  · rcases List.mem_append.mp there with omitted | there
    · exact .inl omitted
    · obtain ⟨entry, kept, there⟩ := List.mem_flatMap.mp there
      have noted : noteStep entry ∈ noteSteps log := List.mem_map_of_mem kept
      exact .inr (List.mem_append_right _
        (List.mem_flatMap.mpr ⟨_, noted, mem_numbers_of_entry there⟩))
  · exact .inr (List.mem_append_left _ (mem_numbers_of_error there))

/-- If no number is too big, there are both reports. -/
theorem exists_reports {bound : Nat} (few : bound < 10 ^ Decimal.maxDigits)
    (count : log.stepCount ≤ bound) (small : ∀ n ∈ noteNumbers log error, n.natAbs ≤ bound) :
    (∃ report, json log error = .ok report) ∧
      ∀ shown, ∃ report, write log error shown = .ok report := by
  have writable (n : Int) (within : n.natAbs ≤ bound) : Decimal.Writable n :=
    Decimal.writable_iff.mpr (Nat.lt_of_le_of_lt within few)
  refine ⟨⟨_, json_eq_ok.mpr ⟨fun n there => writable n (small n there), rfl⟩⟩, fun shown =>
    ⟨_, Failure.ofWriting_showing_eq_ok.mpr ⟨fun n there => writable n ?_, rfl⟩⟩⟩
  rcases mem_noteNumbers there with omitted | noted
  · unfold omittedNumbers at omitted
    split at omitted
    · rw [List.mem_singleton.mp omitted, Int.natAbs_natCast]
      omega
    · cases omitted
  · exact small n noted

end

end TapeLang.Report
