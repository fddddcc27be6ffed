import TapeLang.Proofs.Source.Block
import TapeLang.Proofs.Source.Location
import TapeLang.Source.Load

/-! What one pass over a text leaves behind.

Over a text that can be read as a block, the pass adds the block's code and keeps the brackets that
were open before. Over any text in which no closer runs ahead, the brackets that stay open are
counted. -/

set_option autoImplicit false

namespace TapeLang

namespace Scan

variable {filename : String} {scan : Scan} {c : Char}

/-! ## One character -/

theorem read_comment (silent : Opcode.ofSymbol? c = none) :
    scan.read filename c = .ok (scan.skip c) := by
  rw [read, silent]

theorem read_command (command : Command) :
    scan.read filename command.symbol =
      .ok (scan.emit filename command.symbol ⟨command.op, none⟩) := by
  rw [read, command.ofSymbol?_symbol]
  cases command <;> rfl

theorem read_opening : scan.read filename '[' = .ok (scan.enter filename '[') := rfl

theorem read_closing {opening : Nat} {location : SourceLocation}
    {openings : List (Nat × SourceLocation)}
    (inside : scan.openings = (opening, location) :: openings) :
    scan.read filename ']' =
      .ok ((scan.patch opening openings).emit filename ']' ⟨.jumpIfNonZero, some opening⟩) := by
  rw [read, show Opcode.ofSymbol? ']' = some .jumpIfNonZero from rfl]
  simp only [inside]

theorem read_closing_outside (outside : scan.openings = []) :
    scan.read filename ']' =
      .error ⟨.unmatchedClose (scan.cursor.locate filename ']'), scan.cursor⟩ := by
  rw [read, show Opcode.ofSymbol? ']' = some .jumpIfNonZero from rfl]
  simp only [outside]
  rfl

theorem readAll_cons {next : Scan} {text : List Char} (first : scan.read filename c = .ok next) :
    readAll filename scan (c :: text) = readAll filename next text := by
  rw [readAll, List.foldlM_cons, first]
  rfl

theorem readAll_cons_error {stopped : Stopped} {text : List Char}
    (first : scan.read filename c = .error stopped) :
    readAll filename scan (c :: text) = .error stopped := by
  rw [readAll, List.foldlM_cons, first]
  rfl

theorem readAll_append {next : Scan} {first rest : List Char}
    (start : readAll filename scan first = .ok next) :
    readAll filename scan (first ++ rest) = readAll filename next rest := by
  unfold readAll at start ⊢
  rw [List.foldlM_append, start]
  rfl

/-! ## A block -/

/-- From one scan to another a text has been read and instructions have been added, and the same
brackets are open. -/
structure Adds (filename : String) (text : List Char) (code : List Instruction)
    (first last : Scan) : Prop where
  cursor : last.cursor = first.cursor.passAll text
  code : last.code.toList = first.code.toList ++ code
  locations : last.locations.toList =
    first.locations.toList ++ first.cursor.commandLocations filename text
  openings : last.openings = first.openings

theorem Adds.size {text : List Char} {code : List Instruction} {first last : Scan}
    (adds : Adds filename text code first last) :
    last.code.size = first.code.size + code.length := by
  rw [← Array.length_toList, adds.code, List.length_append, Array.length_toList]

theorem Adds.nil (scan : Scan) : Adds filename [] [] scan scan where
  cursor := rfl
  code := (List.append_nil _).symm
  locations := (List.append_nil _).symm
  openings := rfl

theorem Adds.trans {text more : List Char} {code added : List Instruction}
    {first middle last : Scan} (start : Adds filename text code first middle)
    (rest : Adds filename more added middle last) :
    Adds filename (text ++ more) (code ++ added) first last where
  cursor := by rw [rest.cursor, start.cursor, Cursor.passAll_append]
  code := by rw [rest.code, start.code, List.append_assoc]
  locations := by
    rw [rest.locations, start.locations, start.cursor, Cursor.commandLocations_append,
      List.append_assoc]
  openings := rest.openings.trans start.openings

theorem adds_skip (silent : Opcode.ofSymbol? c = none) :
    Adds filename [c] [] scan (scan.skip c) where
  cursor := rfl
  code := (List.append_nil _).symm
  locations := by
    rw [Cursor.commandLocations_comment silent]
    exact (List.append_nil _).symm
  openings := rfl

theorem adds_emit {inst : Instruction} (means : (Opcode.ofSymbol? c).isSome) :
    Adds filename [c] [inst] scan (scan.emit filename c inst) where
  cursor := rfl
  code := Array.toList_push
  locations := by
    rw [Cursor.commandLocations_command means]
    exact Array.toList_push
  openings := rfl

-- The closing bracket replaces the provisional target of the opening one, which lies under the
-- code of the loop's body.
theorem adds_loop {inner : List Char} {body : List Instruction} {opened : Scan}
    (inside : Adds filename inner body (scan.enter filename '[') opened) :
    ∃ closed, opened.read filename ']' = .ok closed ∧
      Adds filename ('[' :: inner ++ [']'])
        (⟨.jumpIfZero, some ↑(scan.code.size + body.length + 1)⟩ :: body ++
          [⟨.jumpIfNonZero, some ↑scan.code.size⟩]) scan closed := by
  -- The closing bracket's index is the target that the opening one is given.
  have size : opened.code.size = scan.code.size + body.length + 1 := by
    rw [inside.size]
    simp only [enter, Array.size_push]
    omega
  have patched : (opened.code.setIfInBounds scan.code.size
      ⟨.jumpIfZero, some ↑opened.code.size⟩).toList =
      scan.code.toList ++ ⟨.jumpIfZero, some ↑(scan.code.size + body.length + 1)⟩ :: body := by
    rw [Array.toList_setIfInBounds, inside.code, size]
    simp [enter]
  have opening : scan.cursor.commandLocations filename ('[' :: inner) =
      scan.cursor.locate filename '[' :: (scan.cursor.pass '[').commandLocations filename inner :=
    Cursor.commandLocations_command rfl
  have closing (cursor : Cursor) :
      cursor.commandLocations filename [']'] = [cursor.locate filename ']'] :=
    Cursor.commandLocations_command rfl
  refine ⟨_, read_closing inside.openings, ?_, ?_, ?_, rfl⟩
  · simp only [emit, patch, inside.cursor, Cursor.passAll_append, Cursor.passAll_cons]
    rfl
  · simp only [emit, patch, Array.toList_push, patched, List.append_assoc]
  · rw [Cursor.commandLocations_append, opening, closing]
    simp only [emit, patch, Array.toList_push, inside.locations, inside.cursor, enter,
      List.append_assoc, List.cons_append, List.nil_append]
    rfl

theorem readAll_of_reads (filename : String) {text : List Char} {block : Block}
    (reads : block.Reads text) (scan : Scan) :
    ∃ last, readAll filename scan text = .ok last ∧
      Adds filename text (block.code scan.code.size) scan last := by
  induction reads generalizing scan with
  | nil => exact ⟨scan, rfl, .nil scan⟩
  | @comment c text block silent _ ih =>
    obtain ⟨last, goesOn, adds⟩ := ih (scan.skip c)
    exact ⟨last, (readAll_cons (read_comment silent)).trans goesOn, (adds_skip silent).trans adds⟩
  | @command text block command _ ih =>
    have start : Adds filename [command.symbol] [⟨command.op, none⟩] scan
        (scan.emit filename command.symbol ⟨command.op, none⟩) := adds_emit (by simp)
    obtain ⟨last, goesOn, adds⟩ := ih (scan.emit filename command.symbol ⟨command.op, none⟩)
    rw [start.size] at adds
    exact ⟨last, (readAll_cons (read_command command)).trans goesOn, start.trans adds⟩
  | @loop inner text body rest _ _ bodyIH restIH =>
    obtain ⟨opened, entered, inside⟩ := bodyIH (scan.enter filename '[')
    rw [show (scan.enter filename '[').code.size = scan.code.size + 1 from Array.size_push _]
      at inside
    obtain ⟨closed, left, loop⟩ := adds_loop inside
    obtain ⟨last, goesOn, adds⟩ := restIH closed
    refine ⟨last, ?_, ?_⟩
    · rw [List.cons_append, readAll_cons read_opening, readAll_append entered, readAll_cons left,
        goesOn]
    · have size : closed.code.size = scan.code.size + body.size + 2 := by
        rw [loop.size]
        simp only [List.length_append, List.length_cons, Block.length_code, List.length_nil]
        omega
      rw [size] at adds
      have whole := loop.trans adds
      simp only [Block.length_code, List.append_assoc, List.cons_append, List.nil_append] at whole
      exact whole

/-! ## Any text without excess -/

-- As many brackets are open as there are openers more than closers, and the last of them stands
-- where the text says.
theorem readAll_of_noExcess (filename : String) {text : List Char}
    (fits : NoExcess '[' ']' text) :
    ∃ last, readAll filename {} text = .ok last ∧ last.cursor = ({} : Cursor).passAll text ∧
      last.openings.length = text.count '[' - text.count ']' := by
  -- On the length: the last opener that stays open is cut off, and what follows it is a block.
  induction bound : text.length using Nat.strongRecOn generalizing text with
  | ind n ih =>
    by_cases more : text.count ']' < text.count '['
    · obtain ⟨before, after, rfl, balanced⟩ := exists_last_open more
      simp only [List.length_append, List.length_cons] at bound
      obtain ⟨middle, start, cursor, openings⟩ := ih before.length (by omega) fits.of_append rfl
      obtain ⟨block, reads⟩ := Block.exists_reads balanced
      obtain ⟨last, goesOn, adds⟩ := readAll_of_reads filename reads (middle.enter filename '[')
      refine ⟨last, ?_, ?_, ?_⟩
      · rw [readAll_append start, readAll_cons read_opening, goesOn]
      · rw [adds.cursor, Cursor.passAll_append, Cursor.passAll_cons, ← cursor]
        rfl
      · have within := fits.of_append.count_le
        rw [adds.openings]
        simp only [enter, List.length_cons, openings, List.count_append, List.count_cons_self,
          List.count_cons_of_ne (show '[' ≠ ']' by decide), balanced.total]
        omega
    · have total : text.count '[' = text.count ']' := by
        have := fits.count_le
        omega
      obtain ⟨block, reads⟩ := Block.exists_reads ⟨fits, total⟩
      obtain ⟨last, whole, adds⟩ := readAll_of_reads filename reads {}
      exact ⟨last, whole, adds.cursor, by rw [adds.openings, total, Nat.sub_self]; rfl⟩

end Scan

end TapeLang
