import TapeLang.Proofs.Log.Kept
import TapeLang.Value.Basic

/-! What the entries of a log show, and how one entry leads to the next.

A window shows the cells around a pointer as far as the tape goes. Where the next step is taken follows
from an entry and the target of its instruction; the cell that it finds follows too if the pointer
stays, with what was read if it was an input. -/

set_option autoImplicit false

namespace TapeLang

namespace Tape

theorem cell_put_self (tape : Tape) {k : Nat} (inside : k < size) (cell : UInt8) :
    (tape.put k cell).cell k = cell := by
  have bound : k < tape.cells.size := by rw [tape.size_cells]; exact inside
  simp [put, Tape.cell, bound]

/-- A window on the cells that are at most eight away from a pointer. -/
structure Window.Shows (window : Window) (tape : Tape) (p : Nat) : Prop where
  start : (window.start : Int) = max 0 ((p : Int) - 8)
  stop : window.start + window.cells.length = min size (p + 9)
  cells : ∀ i, i < window.cells.length → window.cells[i]? = some (tape.cell (window.start + i))
  pointer : window.start ≤ p ∧ p < window.start + window.cells.length

theorem length_slice (tape : Tape) (start stop : Nat) :
    (tape.slice start ↑stop).length = min stop size - start := by
  simp only [slice, Int.natCast_nonneg, if_true, Int.toNat_natCast, Array.length_toList,
    Array.size_extract, tape.size_cells, size]

theorem slice_getElem? (tape : Tape) {start stop i : Nat}
    (inside : i < (tape.slice start ↑stop).length) :
    (tape.slice start ↑stop)[i]? = some (tape.cell (start + i)) := by
  have bound : start + i < tape.cells.size := by
    rw [length_slice] at inside
    rw [tape.size_cells]
    simp only [size] at inside
    omega
  rw [List.getElem?_eq_getElem inside]
  simp [slice, Tape.cell, bound]

theorem window_shows (tape : Tape) {p : Nat} (inside : p < size) :
    (tape.window ↑p 8).Shows tape p := by
  have stop : min (size : Int) (↑p + 8 + 1) = ↑(min size (p + 9)) := by omega
  have start : ((p : Int) - 8).toNat = p - 8 := by omega
  have length : (tape.slice (p - 8) ↑(min size (p + 9))).length = min size (p + 9) - (p - 8) := by
    rw [length_slice]
    omega
  simp only [window, stop, start]
  refine ⟨?_, ?_, fun i bound => slice_getElem? tape bound, ?_⟩ <;> simp only [length] <;> omega

end Tape

theorem toNat_decrement (cell : UInt8) : ((cell - 1).toNat : Int) = (↑cell.toNat - 1) % 256 := by
  have bound := cell.toNat_lt
  simp only [UInt8.toNat_sub, UInt8.toNat_one]
  omega

def Opcode.pointerAfter (op : Opcode) (pointer : Int) : Int :=
  match op with
  | moveRight => pointer + 1
  | moveLeft => pointer - 1
  | _ => pointer

namespace LogEntry

/-- Where the counter is after the step of an entry, of which the instruction has a given target. -/
def counterAfter (entry : LogEntry) (target : Option Int) : Option Int :=
  match entry.op with
  | .jumpIfZero => if entry.cell = 0 then target.map (· + 1) else some (entry.pc + 1)
  | .jumpIfNonZero => if entry.cell = 0 then some (entry.pc + 1) else target.map (· + 1)
  | _ => some (entry.pc + 1)

/-- What the cell of an entry is after its step; an input stores what is read. -/
def cellAfter (entry : LogEntry) (read : Except Failure Value) : Option Int :=
  match entry.op, read with
  | .increment, _ => some ((entry.cell + 1) % 256)
  | .decrement, _ => some ((entry.cell - 1) % 256)
  | .input, .ok (.int n) => some n
  | .input, _ => none
  | _, _ => some entry.cell

/-- Entries of two steps of which the second comes right after the first: where the second is taken,
and what it finds there if the pointer has stayed, follows from the first. -/
structure Precedes (entry next : LogEntry) (target : Option Int) (read : Except Failure Value) :
    Prop where
  stepIndex : next.stepIndex = entry.stepIndex + 1
  counter : entry.counterAfter target = some next.pc
  pointer : next.pointer = entry.op.pointerAfter entry.pointer
  cell : next.pointer = entry.pointer → entry.cellAfter read = some next.cell

end LogEntry

namespace StepLog

variable {log : StepLog} {capacity : Option Nat} {all : List LogEntry}

def keptOf (history : Option Int) (steps : Nat) : Nat :=
  match history with
  | none => steps
  | some n => min n.toNat steps

theorem keptOf_le (history : Option Int) (steps : Nat) : keptOf history steps ≤ steps := by
  cases history with
  | none => exact Nat.le_refl steps
  | some n => exact Nat.min_le_right n.toNat steps

/-- The kept entries, the oldest first, are the last ones of all. -/
theorem Keeps.toList {history : Option Int} (keeps : log.Keeps (kept history) all) :
    log.entries.toList = all.reverse.drop (all.length - keptOf history all.length) := by
  rw [Recent.toList, keeps.entries]
  cases history with
  | none => simp [clip, kept, keptOf]
  | some n =>
    simp only [clip, kept, keptOf, Option.map_some, List.reverse_take]
    congr 1
    omega

/-- A log of which the newest entry has the index of the last step. -/
def Numbered (capacity : Option Nat) (log : StepLog) : Prop :=
  ∃ all, log.Keeps capacity all ∧ ∀ entry, all.head? = some entry → entry.stepIndex + 1 = all.length

theorem numbered_empty (verbose : Bool) (capacity : Option Nat) :
    (empty verbose capacity).Numbered capacity :=
  ⟨[], keeps_empty verbose capacity, nofun⟩

theorem Numbered.record (numbered : log.Numbered capacity) {entry : LogEntry}
    (index : entry.stepIndex = log.stepCount) : (log.record entry).Numbered capacity := by
  obtain ⟨all, keeps, _⟩ := numbered
  refine ⟨entry :: all, keeps.record entry, fun newest isNewest => ?_⟩
  cases isNewest
  rw [index, keeps.stepCount, List.length_cons]

theorem Numbered.last? (numbered : log.Numbered capacity) (room : capacity ≠ some 0)
    (stepped : log.stepCount ≠ 0) :
    ∃ entry, log.last? = some entry ∧ entry.stepIndex + 1 = log.stepCount := by
  obtain ⟨all, keeps, last⟩ := numbered
  rw [keeps.last?, if_neg room, keeps.stepCount]
  cases all with
  | nil => exact absurd keeps.stepCount stepped
  | cons entry rest => exact ⟨entry, rfl, last entry rfl⟩

end StepLog

end TapeLang
