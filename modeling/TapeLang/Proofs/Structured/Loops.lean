import Mathlib.Data.Nat.Find
import TapeLang.Proofs.Machine.Bounds
import TapeLang.Proofs.Outcome
import TapeLang.Proofs.Source.Concatenation
import TapeLang.Proofs.Structured.Straight

/-! Loops of straight code.

A body of straight code that comes back to where it began changes the cell there by the same number
in every round. The loop ends with the first round after which the cell is zero, if there is one, and
each other cell has then been changed that many times. -/

set_option autoImplicit false

namespace TapeLang

/-- The number of rounds after which a change in each of them has cleared a cell for the first time. A
cell that is zero takes none. -/
def Clears (cell : UInt8) (change : Int) (rounds : Nat) : Prop :=
  if cell = 0 then rounds = 0
  else 1 ≤ rounds ∧ (256 : Int) ∣ cell.toNat + rounds * change ∧
    ∀ k : Nat, 1 ≤ k → k < rounds → ¬ (256 : Int) ∣ cell.toNat + k * change

theorem exists_clears {cell : UInt8} {change : Int}
    (clears : cell = 0 ∨ ∃ k : Nat, 1 ≤ k ∧ (256 : Int) ∣ cell.toNat + k * change) :
    ∃ rounds, Clears cell change rounds := by
  by_cases zero : cell = 0
  · exact ⟨0, by rw [Clears, if_pos zero]⟩
  · have found := clears.resolve_left zero
    refine ⟨Nat.find found, ?_⟩
    rw [Clears, if_neg zero]
    obtain ⟨positive, cleared⟩ := Nat.find_spec found
    exact ⟨positive, cleared, fun k one fewer divides => Nat.find_min found fewer ⟨one, divides⟩⟩

theorem Clears.dvd {cell : UInt8} {change : Int} {rounds : Nat} (clears : Clears cell change rounds) :
    (256 : Int) ∣ cell.toNat + rounds * change := by
  by_cases zero : cell = 0
  · rw [Clears, if_pos zero] at clears
    simp [clears, zero]
  · rw [Clears, if_neg zero] at clears
    exact clears.2.1

theorem zero_iff_dvd {cell : UInt8} : cell = 0 ↔ (256 : Int) ∣ cell.toNat := by
  have bound := cell.toNat_lt
  rw [← UInt8.toNat_inj, UInt8.toNat_zero]
  omega

namespace Block

variable {ρ ω : Type} {s : Store ρ ω}

/-! ## Blocks behind each other, and more rounds -/

theorem untilZero_under {body other : Store ρ ω → Outcome CommandFault (Store ρ ω)}
    (under : ∀ s, (body s).Under (other s)) (rounds : Nat) (s : Store ρ ω) :
    (untilZero body rounds s).Under (untilZero other (rounds + 1) s) := by
  induction rounds generalizing s with
  | zero => exact .inl rfl
  | succ rounds ih =>
    rw [untilZero, untilZero]
    refine (under s).next fun after _ => ?_
    split
    · exact .refl _
    · exact ih after.tick

section

variable [Reader ρ] [Writer ω]

theorem eval_append (first second : Block) (fuel index : Nat) (s : Store ρ ω) :
    (first.append second).eval fuel index s =
      (first.eval fuel index s).next (second.eval fuel (index + first.size)) := by
  induction first generalizing index s with
  | done => rfl
  | command c rest ih =>
    have after : index + 1 + rest.size = index + (command c rest).size := by
      simp only [size]
      omega
    rw [append, eval, eval, Outcome.next_next, ← after]
    exact congrArg _ (funext (ih (index + 1)))
  | loop body rest _ ih =>
    have after : index + body.size + 2 + rest.size = index + (loop body rest).size := by
      simp only [size]
      omega
    rw [append, eval, eval, Outcome.next_next, ← after]
    exact congrArg _ (funext (ih (index + body.size + 2)))

theorem eval_loop (inner : Block) (fuel index : Nat) (s : Store ρ ω) :
    (loop inner done).eval fuel index s =
      if s.cell = 0 then .done s.tick
      else untilZero (inner.eval fuel (index + 1)) fuel s.tick :=
  Outcome.next_pure _

/-- More rounds change nothing in an evaluation that has ended. -/
theorem eval_under (block : Block) (fuel index : Nat) (s : Store ρ ω) :
    (block.eval fuel index s).Under (block.eval (fuel + 1) index s) := by
  induction block generalizing index s with
  | done => exact .refl _
  | command c rest ih => exact (Outcome.Under.refl _).next fun after _ => ih (index + 1) after
  | loop body rest bodyIH restIH =>
    rw [eval, eval]
    refine Outcome.Under.next ?_ fun after _ => restIH (index + body.size + 2) after
    split
    · exact .refl _
    · exact untilZero_under (bodyIH (index + 1)) fuel s.tick

end

/-! ## Rounds -/

/-- Whether a body that begins at a position comes back there, and changes the cells in the same way
every time. -/
def Levels (body : Store ρ ω → Outcome CommandFault (Store ρ ω)) (p : Nat) (change : Int → Int)
    (steps : Nat) : Prop :=
  ∀ s, s.pointer.val = p → ∃ next, body s = .done next ∧ s.Changes next 0 change steps

variable {body : Store ρ ω → Outcome CommandFault (Store ρ ω)} {p steps : Nat}
  {change : Int → Int}

-- A round is the body and the test after it.
theorem Levels.round (levels : Levels body p change steps) (here : s.pointer.val = p) :
    ∃ next, body s = .done next ∧ s.Changes next.tick 0 change (steps + 1) ∧
      next.tick.pointer.val = p ∧
      (next.cell.toNat : Int) = (s.cell.toNat + change 0) % 256 := by
  obtain ⟨next, taken, changes⟩ := levels s here
  have back : next.pointer.val = s.pointer.val := by
    have pointer := changes.pointer
    omega
  refine ⟨next, taken, ?_, back.trans here, ?_⟩
  · exact (changes.trans next.changes_tick).congr fun o => by simp
  · have cell := changes.cells s.pointer.val s.pointer.isLt
    rw [Int.sub_self] at cell
    rw [Store.cell, back]
    exact cell

-- After a round the cell takes one round less to be cleared.
theorem dvd_round {cell next : UInt8} {amount : Int}
    (changed : (next.toNat : Int) = (cell.toNat + amount) % 256) (k : Nat) :
    (256 : Int) ∣ next.toNat + k * amount ↔ (256 : Int) ∣ cell.toNat + ↑(k + 1) * amount := by
  rw [changed, Int.natCast_succ, Int.add_mul, Int.one_mul]
  omega

/-- The loop takes the rounds that clear the cell. -/
theorem Levels.untilZero_done (levels : Levels body p change steps) {k rounds : Nat}
    (here : s.pointer.val = p) (enough : k < rounds)
    (cleared : (256 : Int) ∣ s.cell.toNat + ↑(k + 1) * change 0)
    (least : ∀ j : Nat, 1 ≤ j → j < k + 1 → ¬ (256 : Int) ∣ s.cell.toNat + j * change 0) :
    ∃ next, untilZero body rounds s = .done next ∧
      s.Changes next 0 (fun o => ↑(k + 1) * change o) ((k + 1) * (steps + 1)) := by
  induction k generalizing s rounds with
  | zero =>
    obtain ⟨rounds, rfl⟩ := Nat.exists_eq_add_of_lt enough
    obtain ⟨next, taken, changes, _, cell⟩ := levels.round here
    have zero : next.cell = 0 := by
      rw [zero_iff_dvd]
      simpa using (dvd_round cell 0).mpr cleared
    refine ⟨next.tick, ?_, ?_⟩
    · rw [Nat.zero_add, untilZero, taken, Outcome.next_done, if_pos zero]
    · rw [Nat.zero_add, Nat.one_mul]
      exact changes.congr fun o => by simp
  | succ k ih =>
    obtain ⟨rounds, rfl⟩ : ∃ more, rounds = more + 1 := ⟨rounds - 1, by omega⟩
    obtain ⟨middle, taken, changes, back, cell⟩ := levels.round here
    have nonZero : ¬ middle.cell = 0 := by
      rw [zero_iff_dvd]
      have first := least 1 (Nat.le_refl 1) (by omega)
      rw [show (1 : Nat) = 0 + 1 from rfl, ← dvd_round cell] at first
      simpa using first
    have later (j : Nat) (positive : 1 ≤ j) (fewer : j < k + 1) :
        ¬ (256 : Int) ∣ middle.tick.cell.toNat + j * change 0 := by
      rw [Store.cell_tick, dvd_round cell]
      exact least (j + 1) (by omega) (by omega)
    obtain ⟨next, rest, more⟩ := ih back (Nat.lt_of_succ_lt_succ enough)
      ((dvd_round cell (k + 1)).mpr cleared) later
    refine ⟨next, ?_, ?_⟩
    · rw [untilZero, taken, Outcome.next_done, if_neg nonZero, rest]
    · have whole := changes.trans more
      have total : steps + 1 + (k + 1) * (steps + 1) = (k + 1 + 1) * (steps + 1) := by
        rw [Nat.succ_mul (k + 1), Nat.add_comm]
      rw [Int.add_zero, total] at whole
      refine whole.congr fun o => ?_
      rw [Int.sub_zero, Int.natCast_succ (k + 1), Int.add_mul, Int.one_mul, Int.add_comm]

/-- The loop never ends if no number of rounds clears the cell. -/
theorem Levels.untilZero_exhausted (levels : Levels body p change steps)
    (here : s.pointer.val = p)
    (never : ∀ k : Nat, 1 ≤ k → ¬ (256 : Int) ∣ s.cell.toNat + k * change 0) (rounds : Nat) :
    untilZero body rounds s = .exhausted := by
  induction rounds generalizing s with
  | zero => rfl
  | succ rounds ih =>
    obtain ⟨middle, taken, _, back, cell⟩ := levels.round here
    have later (k : Nat) : ¬ (256 : Int) ∣ middle.cell.toNat + k * change 0 := by
      rw [dvd_round cell]
      exact never (k + 1) (Nat.succ_pos k)
    have nonZero : ¬ middle.cell = 0 := by
      rw [zero_iff_dvd]
      simpa using later 0
    rw [untilZero, taken, Outcome.next_done, if_neg nonZero]
    exact ih back fun k _ => later k

/-! ## Loops -/

section

variable [Reader ρ] [Writer ω] {inner : Block} (straight : ∀ op ∈ inner.ops, op.Straight)

include straight

theorem levels_eval (level : Opcode.travel inner.ops = 0) (stays : Opcode.Stays inner.ops p)
    (fuel index : Nat) :
    Levels (@eval ρ ω _ _ fuel index inner) p (Opcode.netChange inner.ops)
      inner.ops.length := by
  rintro s rfl
  obtain ⟨next, taken, changes⟩ := eval_stays straight fuel index stays
  rw [level] at changes
  exact ⟨next, taken, changes⟩

/-- A loop ends with the first round that clears the cell. -/
theorem eval_loop_clears (level : Opcode.travel inner.ops = 0)
    (stays : s.cell = 0 ∨ Opcode.Stays inner.ops s.pointer.val) {rounds fuel : Nat}
    (clears : Clears s.cell (Opcode.netChange inner.ops 0) rounds) (enough : rounds ≤ fuel)
    (index : Nat) :
    ∃ next, (loop inner done).eval fuel index s = .done next ∧
      s.Changes next 0 (fun o => rounds * Opcode.netChange inner.ops o)
        (1 + rounds * (inner.ops.length + 1)) := by
  rw [eval_loop]
  by_cases zero : s.cell = 0
  · rw [Clears, if_pos zero] at clears
    subst clears
    refine ⟨s.tick, if_pos zero, ?_⟩
    simpa using s.changes_tick
  · rw [Clears, if_neg zero] at clears
    obtain ⟨positive, cleared, least⟩ := clears
    obtain ⟨k, rfl⟩ : ∃ k, rounds = k + 1 := ⟨rounds - 1, by omega⟩
    have levels : Levels (@eval ρ ω _ _ fuel (index + 1) inner) s.pointer.val _ _ :=
      levels_eval straight level (stays.resolve_left zero) fuel (index + 1)
    have entered : s.tick.pointer.val = s.pointer.val := rfl
    obtain ⟨next, taken, changes⟩ := levels.untilZero_done entered enough cleared least
    refine ⟨next, by rw [if_neg zero, taken], ?_⟩
    have whole := s.changes_tick.trans changes
    exact whole.congr fun o => by simp

/-- A loop does not end if no number of rounds clears the cell. -/
theorem eval_loop_exhausted (level : Opcode.travel inner.ops = 0) (nonZero : s.cell ≠ 0)
    (stays : Opcode.Stays inner.ops s.pointer.val)
    (never : ∀ k : Nat, 1 ≤ k → ¬ (256 : Int) ∣ s.cell.toNat + k * Opcode.netChange inner.ops 0)
    (fuel index : Nat) : (loop inner done).eval fuel index s = .exhausted := by
  have entered : s.tick.pointer.val = s.pointer.val := rfl
  rw [eval_loop, if_neg nonZero]
  exact (levels_eval straight level stays fuel (index + 1)).untilZero_exhausted entered never fuel

/-- A loop of which the body leaves the tape is stopped in its first round. -/
theorem eval_loop_strays (nonZero : s.cell ≠ 0) (strays : ¬ Opcode.Stays inner.ops s.pointer.val)
    (fuel index : Nat) :
    ∃ before op reason next, Opcode.LeavesAt inner.ops s.pointer.val before op ∧
      (loop inner done).eval (fuel + 1) index s =
        .stopped ⟨reason, index + 1 + before.length⟩ next ∧
      reason.kind = "PointerOutOfBounds" ∧
      s.Changes next (Opcode.travel before) (Opcode.netChange before) (before.length + 2) := by
  obtain ⟨before, op, reason, next, off, stopped, kind, changes⟩ :=
    @eval_strays ρ ω _ _ s.tick inner straight (fuel + 1) (index + 1) strays
  refine ⟨before, op, reason, next, off, ?_, kind, ?_⟩
  · rw [eval_loop, if_neg nonZero, untilZero, stopped, Outcome.next_stopped]
  · have whole := s.changes_tick.trans changes
    rw [Int.zero_add, Nat.add_comm] at whole
    exact whole.congr fun o => by simp

end

end Block

end TapeLang
