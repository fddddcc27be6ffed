import Mathlib.Data.List.Induction
import TapeLang.Code.Program
import TapeLang.Source.Cursor

/-! Lines and columns by counting, and the locations of the commands of a text. -/

set_option autoImplicit false

namespace TapeLang

/-- The location of a character that comes after `before`: its line is one more than the newlines
before it, its column one more than the characters since the last of them. -/
def locationAfter (filename : String) (before : List Char) (c : Char) : SourceLocation :=
  ⟨filename, ↑(1 + before.count '\n'), ↑(1 + (before.reverse.takeWhile (· ≠ '\n')).length),
    String.singleton c⟩

namespace Cursor

def passAll (cursor : Cursor) (text : List Char) : Cursor := text.foldl pass cursor

@[simp] theorem passAll_nil (cursor : Cursor) : cursor.passAll [] = cursor := rfl

@[simp] theorem passAll_cons (cursor : Cursor) (c : Char) (text : List Char) :
    cursor.passAll (c :: text) = (cursor.pass c).passAll text := rfl

@[simp] theorem passAll_append (cursor : Cursor) (first rest : List Char) :
    cursor.passAll (first ++ rest) = (cursor.passAll first).passAll rest :=
  List.foldl_append

theorem passAll_eq (text : List Char) :
    ({} : Cursor).passAll text =
      ⟨text.length, 1 + text.count '\n', 1 + (text.reverse.takeWhile (· ≠ '\n')).length⟩ := by
  induction text using List.reverseRecOn with
  | nil => rfl
  | append_singleton text c ih =>
    rw [passAll_append, ih, passAll_cons, passAll_nil, pass]
    by_cases newline : c = '\n'
    · simp [newline, Nat.add_assoc]
    · simp only [newline, if_false, List.length_append, List.length_singleton, List.count_append,
        List.count_singleton, List.reverse_append, List.reverse_singleton, List.singleton_append,
        List.takeWhile_cons, beq_iff_eq, Cursor.mk.injEq, Nat.add_zero, true_and]
      simp [newline]
      omega

def locate (cursor : Cursor) (filename : String) (c : Char) : SourceLocation :=
  ⟨filename, cursor.line, cursor.column, String.singleton c⟩

theorem locate_passAll (filename : String) (before : List Char) (c : Char) :
    (({} : Cursor).passAll before).locate filename c = locationAfter filename before c := by
  rw [passAll_eq]
  rfl

def commandLocations (filename : String) : Cursor → List Char → List SourceLocation
  | _, [] => []
  | cursor, c :: text =>
    match Opcode.ofSymbol? c with
    | none => (cursor.pass c).commandLocations filename text
    | some _ => cursor.locate filename c :: (cursor.pass c).commandLocations filename text

variable {filename : String} {cursor : Cursor} {c : Char} {text : List Char}

theorem commandLocations_comment (silent : Opcode.ofSymbol? c = none) :
    cursor.commandLocations filename (c :: text) =
      (cursor.pass c).commandLocations filename text := by
  rw [commandLocations, silent]

theorem commandLocations_command (means : (Opcode.ofSymbol? c).isSome) :
    cursor.commandLocations filename (c :: text) =
      cursor.locate filename c :: (cursor.pass c).commandLocations filename text := by
  obtain ⟨op, means⟩ := Option.isSome_iff_exists.mp means
  rw [commandLocations, means]

theorem commandLocations_append (first rest : List Char) :
    cursor.commandLocations filename (first ++ rest) =
      cursor.commandLocations filename first ++
        (cursor.passAll first).commandLocations filename rest := by
  induction first generalizing cursor with
  | nil => rfl
  | cons c first ih =>
    rw [List.cons_append]
    cases means : Opcode.ofSymbol? c with
    | none => rw [commandLocations_comment means, commandLocations_comment means, ih, passAll_cons]
    | some op =>
      have command : (Opcode.ofSymbol? c).isSome := by rw [means]; rfl
      rw [commandLocations_command command, commandLocations_command command, ih, passAll_cons]
      rfl

@[simp] theorem length_commandLocations (text : List Char) :
    (cursor.commandLocations filename text).length =
      (text.filterMap Opcode.ofSymbol?).length := by
  induction text generalizing cursor with
  | nil => rfl
  | cons c text ih =>
    cases means : Opcode.ofSymbol? c with
    | none => rw [commandLocations_comment means, List.filterMap_cons_none means, ih]
    | some op =>
      rw [commandLocations_command (by rw [means]; rfl), List.filterMap_cons_some means,
        List.length_cons, List.length_cons, ih]

-- Every location is that of some character of the text.
theorem mem_commandLocations {location : SourceLocation}
    (listed : location ∈ cursor.commandLocations filename text) :
    ∃ before c after, text = before ++ c :: after ∧
      location = (cursor.passAll before).locate filename c := by
  induction text generalizing cursor with
  | nil => cases listed
  | cons c text ih =>
    have further (listed : location ∈ (cursor.pass c).commandLocations filename text) :
        ∃ before d after, c :: text = before ++ d :: after ∧
          location = (cursor.passAll before).locate filename d := by
      obtain ⟨before, d, after, rfl, same⟩ := ih listed
      exact ⟨c :: before, d, after, rfl, same⟩
    cases means : Opcode.ofSymbol? c with
    | none => exact further (commandLocations_comment means ▸ listed)
    | some op =>
      rw [commandLocations_command (by rw [means]; rfl)] at listed
      rcases List.mem_cons.mp listed with rfl | listed
      · exact ⟨[], c, text, rfl, rfl⟩
      · exact further listed

-- Lines and columns do not exceed the length of the text.
theorem le_of_mem_commandLocations {location : SourceLocation}
    (listed : location ∈ ({} : Cursor).commandLocations filename text) :
    location.line.natAbs ≤ text.length ∧ location.column.natAbs ≤ text.length := by
  obtain ⟨before, c, after, rfl, rfl⟩ := mem_commandLocations listed
  have lines : before.count '\n' ≤ before.length := List.count_le_length
  have columns := (List.takeWhile_sublist (· ≠ '\n') (l := before.reverse)).length_le
  rw [List.length_reverse] at columns
  rw [locate_passAll, List.length_append, List.length_cons]
  simp only [locationAfter, Int.natAbs_natCast]
  omega

-- The location of a command, found by the number of commands before it.
theorem commandLocations_getElem? {before after : List Char}
    (command : (Opcode.ofSymbol? c).isSome) :
    (({} : Cursor).commandLocations filename (before ++ c :: after))[
        (before.filterMap Opcode.ofSymbol?).length]? = some (locationAfter filename before c) := by
  rw [commandLocations_append, commandLocations_command command,
    List.getElem?_append_right (by simp), length_commandLocations, Nat.sub_self,
    List.getElem?_cons_zero, locate_passAll]

end Cursor

end TapeLang
