import TapeLang.Proofs.Log.Entries
import TapeLang.Proofs.Structured.Evaluation

/-! Straight code.

Operations that only move the pointer and change the cell at it add, in all, a fixed number to each
cell, counted by its distance from the place where they begin. They are all taken if the pointer stays
on the tape; otherwise the first move off it stops them. -/

set_option autoImplicit false

namespace TapeLang

namespace Opcode

def Straight (op : Opcode) : Prop :=
  op = .increment ∨ op = .decrement ∨ op = .moveRight ∨ op = .moveLeft

def movement : Opcode → Int
  | moveRight => 1
  | moveLeft => -1
  | _ => 0

def gain : Opcode → Int
  | increment => 1
  | decrement => -1
  | _ => 0

def travel : List Opcode → Int
  | [] => 0
  | op :: rest => op.movement + travel rest

/-- What operations add in all to the cell at an offset from the place where they begin. -/
def netChange : List Opcode → Int → Int
  | [], _ => 0
  | op :: rest, offset =>
    (if offset = 0 then op.gain else 0) + netChange rest (offset - op.movement)

def OnTape (position : Int) : Prop := 0 ≤ position ∧ position < Tape.size

/-- Whether operations that begin at a position stay on the tape at every moment. -/
def Stays (ops : List Opcode) (position : Int) : Prop :=
  ∀ start, start <+: ops → OnTape (position + travel start)

/-- The first operation that leaves the tape, behind others that stay on it. -/
structure LeavesAt (ops : List Opcode) (position : Int) (before : List Opcode) (op : Opcode) :
    Prop where
  within : before ++ [op] <+: ops
  stays : Stays before position
  leaves : ¬ OnTape (position + travel (before ++ [op]))

@[simp] theorem travel_nil : travel [] = 0 := rfl

@[simp] theorem travel_cons (op : Opcode) (rest : List Opcode) :
    travel (op :: rest) = op.movement + travel rest := rfl

theorem stays_nil {position : Int} : Stays [] position ↔ OnTape position := by
  simp [Stays]

theorem stays_cons {op : Opcode} {rest : List Opcode} {position : Int} :
    Stays (op :: rest) position ↔ OnTape position ∧ Stays rest (position + op.movement) := by
  simp only [Stays, List.prefix_cons_iff]
  constructor
  · intro stays
    refine ⟨by simpa using stays [] (.inl rfl), fun start before => ?_⟩
    have inside := stays (op :: start) (.inr ⟨start, rfl, before⟩)
    rwa [travel_cons, ← Int.add_assoc] at inside
  · rintro ⟨inside, stays⟩ start (rfl | ⟨tail, rfl, before⟩)
    · simpa using inside
    · rw [travel_cons, ← Int.add_assoc]
      exact stays tail before

theorem LeavesAt.cons {first op : Opcode} {rest before : List Opcode} {position : Int}
    (off : LeavesAt rest (position + first.movement) before op) (here : OnTape position) :
    LeavesAt (first :: rest) position (first :: before) op where
  within := List.prefix_cons_inj first |>.mpr off.within
  stays := stays_cons.mpr ⟨here, off.stays⟩
  leaves := by
    rw [List.cons_append, travel_cons, ← Int.add_assoc]
    exact off.leaves

theorem LeavesAt.getElem? {ops before : List Opcode} {op : Opcode} {position : Int}
    (off : LeavesAt ops position before op) : ops[before.length]? = some op := by
  obtain ⟨after, rfl⟩ := off.within
  simp

end Opcode

theorem Tape.cell_put_of_ne (tape : Tape) {k other : Nat} (apart : other ≠ k) (cell : UInt8) :
    (tape.put k cell).cell other = tape.cell other := by
  simp [Tape.put, Tape.cell, Array.getElem?_setIfInBounds_ne apart.symm]

/-! ## Stores -/

namespace Store

variable {ρ ω : Type} {s middle next : Store ρ ω}

/-- A store after some steps that move the pointer and add to the cells around it. -/
structure Changes {ρ ω : Type} (s next : Store ρ ω) (movement : Int) (change : Int → Int)
    (steps : Nat) : Prop where
  pointer : (next.pointer.val : Int) = s.pointer.val + movement
  cells : ∀ q, q < Tape.size → ((next.tape.cell q).toNat : Int) =
    ((s.tape.cell q).toNat + change (q - s.pointer.val)) % 256
  steps : next.steps = s.steps + steps
  reader : next.reader = s.reader
  writer : next.writer = s.writer

theorem changes_refl (s : Store ρ ω) : s.Changes s 0 (fun _ => 0) 0 where
  pointer := (Int.add_zero _).symm
  cells q _ := by
    have bound := (s.tape.cell q).toNat_lt
    omega
  steps := rfl
  reader := rfl
  writer := rfl

theorem changes_tick (s : Store ρ ω) : s.Changes s.tick 0 (fun _ => 0) 1 :=
  { s.changes_refl with steps := rfl }

theorem Changes.trans {first second : Int} {change more : Int → Int} {steps further : Nat}
    (left : s.Changes middle first change steps)
    (right : middle.Changes next second more further) :
    s.Changes next (first + second) (fun o => change o + more (o - first)) (steps + further) where
  pointer := by rw [right.pointer, left.pointer, Int.add_assoc]
  cells q inside := by
    rw [right.cells q inside, left.cells q inside, left.pointer, Int.emod_add_emod, Int.add_assoc,
      ← Int.sub_sub]
  steps := by rw [right.steps, left.steps, Nat.add_assoc]
  reader := right.reader.trans left.reader
  writer := right.writer.trans left.writer

theorem Changes.congr {movement : Int} {change other : Int → Int} {steps : Nat}
    (changes : s.Changes next movement change steps) (same : ∀ o, change o = other o) :
    s.Changes next movement other steps := by
  rwa [← funext same]

-- A step that stores another number into the cell at the pointer.
theorem changes_put (s : Store ρ ω) {cell : UInt8} {gain : Int}
    (gained : (cell.toNat : Int) = (s.cell.toNat + gain) % 256) :
    s.Changes (s.tick.put cell) 0 (fun o => if o = 0 then gain else 0) 1 where
  pointer := (Int.add_zero _).symm
  cells q inside := by
    show (((s.tape.put s.pointer cell).cell q).toNat : Int) = _
    by_cases here : q = s.pointer
    · subst here
      rw [Tape.cell_put_self _ inside, Int.sub_self, if_pos rfl]
      exact gained
    · have apart : (q : Int) - s.pointer.val ≠ 0 := by omega
      have bound := (s.tape.cell q).toNat_lt
      rw [Tape.cell_put_of_ne _ here, if_neg apart]
      omega
  steps := rfl
  reader := rfl
  writer := rfl

theorem changes_move (s : Store ρ ω) (pointer : Fin Tape.size) {movement : Int}
    (moved : (pointer.val : Int) = s.pointer.val + movement) :
    s.Changes { s.tick with pointer } movement (fun o => if o = 0 then 0 else 0) 1 where
  pointer := moved
  cells q _ := by
    have bound := (s.tape.cell q).toNat_lt
    rw [ite_self]
    show ((s.tape.cell q).toNat : Int) = _
    omega
  steps := rfl
  reader := rfl
  writer := rfl

end Store

variable {ρ ω : Type} [Reader ρ] [Writer ω] {s : Store ρ ω}

namespace Command

variable {c : Command}

theorem eval_fits (straight : c.op.Straight) (index : Nat)
    (fits : Opcode.OnTape (s.pointer.val + c.op.movement)) :
    ∃ next, c.eval index s = .done next ∧
      s.Changes next c.op.movement (fun o => if o = 0 then c.op.gain else 0) 1 := by
  obtain ⟨start, inside⟩ := fits
  cases c with
  | increment =>
    refine ⟨_, rfl, s.changes_put ?_⟩
    simp [op, Opcode.gain]
  | decrement =>
    refine ⟨_, rfl, s.changes_put ?_⟩
    exact toNat_decrement s.cell
  | moveRight =>
    simp only [op, Opcode.movement] at inside
    have right : s.tick.pointer.val + 1 < Tape.size := Int.ofNat_lt.mp inside
    refine ⟨_, ?_, s.changes_move ⟨s.tick.pointer.val + 1, right⟩ rfl⟩
    simp only [eval, effect, Store.moveRight, dif_pos right]
  | moveLeft =>
    simp only [op, Opcode.movement] at start
    have left : 0 < s.tick.pointer.val := by
      show 0 < s.pointer.val
      omega
    have less : s.tick.pointer.val - 1 < Tape.size :=
      Nat.lt_of_le_of_lt (Nat.sub_le ..) s.pointer.isLt
    refine ⟨_, ?_, s.changes_move ⟨s.tick.pointer.val - 1, less⟩ ?_⟩
    · simp only [eval, effect, Store.moveLeft, if_pos left]
    · exact Int.natCast_sub left
  | output | input => simp [op, Opcode.Straight] at straight

theorem eval_leaves (straight : c.op.Straight) (index : Nat)
    (leaves : ¬ Opcode.OnTape (s.pointer.val + c.op.movement)) :
    ∃ reason : Reason, reason.kind = "PointerOutOfBounds" ∧
      c.eval index s = .stopped ⟨reason, index⟩ s.tick := by
  have inside := s.pointer.isLt
  simp only [Opcode.OnTape] at leaves
  cases c with
  | increment | decrement =>
    simp only [op, Opcode.movement] at leaves
    omega
  | moveRight =>
    simp only [op, Opcode.movement] at leaves
    have stuck : ¬ s.tick.pointer.val + 1 < Tape.size := by
      show ¬ s.pointer.val + 1 < Tape.size
      omega
    obtain ⟨message, words⟩ := Reason.exists_message_moved .right inside
    refine ⟨.pointerMoved .right s.pointer.val, rfl, ?_⟩
    simp only [eval, effect, Store.moveRight, dif_neg stuck]
    rw [← Reason.told_of_message words]
    rfl
  | moveLeft =>
    simp only [op, Opcode.movement] at leaves
    have stuck : ¬ 0 < s.tick.pointer.val := by
      show ¬ 0 < s.pointer.val
      omega
    obtain ⟨message, words⟩ := Reason.exists_message_moved .left inside
    refine ⟨.pointerMoved .left s.pointer.val, rfl, ?_⟩
    simp only [eval, effect, Store.moveLeft, if_neg stuck]
    rw [← Reason.told_of_message words]
    rfl
  | output | input => simp [op, Opcode.Straight] at straight

end Command

namespace Block

/-- Straight code that stays on the tape changes each cell by its net change. -/
theorem eval_stays {block : Block} (straight : ∀ op ∈ block.ops, op.Straight) (fuel index : Nat)
    (stays : Opcode.Stays block.ops s.pointer.val) :
    ∃ next, block.eval fuel index s = .done next ∧
      s.Changes next (Opcode.travel block.ops) (Opcode.netChange block.ops) block.ops.length := by
  induction block generalizing index s with
  | done => exact ⟨s, rfl, s.changes_refl⟩
  | command c rest ih =>
    obtain ⟨_, later⟩ := Opcode.stays_cons.mp stays
    have fits : Opcode.OnTape (s.pointer.val + c.op.movement) := by
      simpa using later [] List.nil_prefix
    obtain ⟨middle, first, changes⟩ := c.eval_fits (straight c.op (.head _)) index fits
    rw [← changes.pointer] at later
    obtain ⟨next, second, more⟩ :=
      ih (fun op member => straight op (.tail _ member)) (index + 1) later
    refine ⟨next, by rw [eval, first, Outcome.next_done, second], ?_⟩
    rw [ops, List.length_cons, Nat.add_comm, Opcode.travel_cons]
    exact changes.trans more
  | loop body rest => exact absurd (straight .jumpIfZero (.head _)) (by simp [Opcode.Straight])

/-- Straight code that does not stay on the tape is stopped at the first move off it. -/
theorem eval_strays {block : Block} (straight : ∀ op ∈ block.ops, op.Straight) (fuel index : Nat)
    (strays : ¬ Opcode.Stays block.ops s.pointer.val) :
    ∃ before op reason next, Opcode.LeavesAt block.ops s.pointer.val before op ∧
      block.eval fuel index s = .stopped ⟨reason, index + before.length⟩ next ∧
      reason.kind = "PointerOutOfBounds" ∧
      s.Changes next (Opcode.travel before) (Opcode.netChange before) (before.length + 1) := by
  have here : Opcode.OnTape s.pointer.val := ⟨Int.natCast_nonneg _, Int.ofNat_lt.mpr s.pointer.isLt⟩
  induction block generalizing index s with
  | done => exact absurd (Opcode.stays_nil.mpr here) strays
  | command c rest ih =>
    have own := straight c.op (.head _)
    by_cases fits : Opcode.OnTape (s.pointer.val + c.op.movement)
    · obtain ⟨middle, first, changes⟩ := c.eval_fits own index fits
      have strays : ¬ Opcode.Stays rest.ops middle.pointer.val := by
        rw [changes.pointer]
        exact fun stays => strays (Opcode.stays_cons.mpr ⟨here, stays⟩)
      rw [← changes.pointer] at fits
      obtain ⟨before, op, reason, next, off, stopped, kind, more⟩ :=
        ih (fun op member => straight op (.tail _ member)) (index + 1) strays fits
      rw [changes.pointer] at off
      refine ⟨c.op :: before, op, reason, next, off.cons here, ?_, kind, ?_⟩
      · rw [eval, first, Outcome.next_done, stopped, List.length_cons, Nat.add_right_comm,
          Nat.add_assoc]
      · rw [Opcode.travel_cons, List.length_cons, Nat.add_comm]
        exact changes.trans more
    · obtain ⟨reason, kind, stopped⟩ := c.eval_leaves own index fits
      refine ⟨[], c.op, reason, s.tick, ?_, by rw [eval, stopped]; rfl, kind, s.changes_tick⟩
      exact ⟨⟨rest.ops, rfl⟩, Opcode.stays_nil.mpr here, by simpa using fits⟩
  | loop body rest => exact absurd (straight .jumpIfZero (.head _)) (by simp [Opcode.Straight])

end Block

end TapeLang
