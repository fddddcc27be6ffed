import TapeLang.Proofs.Machine.Refusals

/-! What one instruction does when there are no hooks.

`At` fixes counter and pointer, with the pointer on the tape. From there a step is logged, and its
result is given for each operation. -/

set_option autoImplicit false

namespace TapeLang

def Gates.closed : Gates := ⟨false, false⟩

theorem Tape.position?_natCast {p : Nat} (inside : p < Tape.size) :
    Tape.position? (p : Int) = some p := by
  simp [Tape.position?, inside]

namespace Machine

variable {ρ ω : Type}

/-- Counter and pointer of a machine of which the pointer is on the tape. -/
structure At (m : Machine ρ ω) (pc : Int) (p : Nat) : Prop where
  counter : m.pc = some pc
  pointer : m.pointer = ↑p
  inside : p < Tape.size

variable {m : Machine ρ ω} {pc : Int} {p : Nat} {inst : Instruction}

theorem At.position (here : m.At pc p) : Tape.position? m.pointer = some p := by
  rw [here.pointer, Tape.position?_natCast here.inside]

theorem At.refuse_moved (here : m.At pc p) (direction : Direction) :
    m.refuse (.pointerMoved direction ↑p) = .run (m.errorHere (.pointerMoved direction ↑p)) := by
  obtain ⟨message, worded⟩ := Reason.exists_message_moved direction here.inside
  rw [refuse_eq here.counter, Fault.ofError_of_message worded]

theorem At.cell? (here : m.At pc p) : m.cell? = some (m.tape.cell p) := by
  rw [Machine.cell?, Tape.get?, here.position]
  rfl

/-- The machine with an entry for the instruction in its log, if there can be one. -/
def logged (inst : Instruction) (m : Machine ρ ω) : Machine ρ ω :=
  match m.entryFor inst with
  | .ok entry => m.recordStep entry
  | .error _ => m

-- Logging changes the log only.
theorem logged_eq (inst : Instruction) (m : Machine ρ ω) :
    m.logged inst = { m with log := (m.logged inst).log } := by
  unfold logged
  split <;> rfl

section
variable (inst : Instruction) (m : Machine ρ ω)

@[simp] theorem program_logged : (m.logged inst).program = m.program := by rw [logged_eq]

@[simp] theorem reader_logged : (m.logged inst).reader = m.reader := by rw [logged_eq]

@[simp] theorem writer_logged : (m.logged inst).writer = m.writer := by rw [logged_eq]

@[simp] theorem tape_logged : (m.logged inst).tape = m.tape := by rw [logged_eq]

@[simp] theorem pointer_logged : (m.logged inst).pointer = m.pointer := by rw [logged_eq]

@[simp] theorem pc_logged : (m.logged inst).pc = m.pc := by rw [logged_eq]

theorem errorHere_logged (reason : Reason) :
    (m.logged inst).errorHere reason = m.errorHere reason := by rw [logged_eq]; rfl

end

theorem At.logged (here : m.At pc p) (inst : Instruction) : (m.logged inst).At pc p :=
  ⟨by simp [here.counter], by simp [here.pointer], here.inside⟩

theorem At.stepCount_logged (here : m.At pc p) :
    (m.logged inst).log.stepCount = m.log.stepCount + 1 := by
  simp [Machine.logged, entryFor, here.cell?, here.counter, recordStep, StepLog.record]

theorem At.exists_entry (here : m.At pc p) (inst : Instruction) :
    ∃ entry, m.entryFor inst = .ok entry ∧ entry.stepIndex = m.log.stepCount ∧
      m.logged inst = m.recordStep entry := by
  simp [Machine.logged, entryFor, here.cell?, here.counter]

theorem At.entryFor_eq (here : m.At pc p) (inst : Instruction) :
    m.entryFor inst = .ok
      { stepIndex := m.log.stepCount, pc, op := inst.op, pointer := ↑p
        cell := ↑(m.tape.cell p).toNat, location := m.program.locate pc
        window := if m.verbose then some (m.tape.window ↑p 8) else none } := by
  simp only [Machine.entryFor, here.cell?, here.counter, here.pointer, window, windowRadius]

def pass (m : Machine ρ ω) (pc : Int) : Machine ρ ω := { m with pc := some (pc + 1) }

/-- Goes on after a target; a jump without a target leaves no counter. -/
def jump (m : Machine ρ ω) : Option Int → Outcome Fault (Machine ρ ω)
  | some target => .done (m.pass target)
  | none => .stopped (.failure .noCounter) { m with pc := none }

theorem At.changeCell (here : m.At pc p) (change : UInt8 → UInt8) :
    m.changeCell change = .done { m with tape := m.tape.put p (change (m.tape.cell p)) } := by
  simp only [Machine.changeCell, here.position]

theorem At.move_right (here : m.At pc p) :
    m.move .right =
      if p + 1 < Tape.size then .done { m with pointer := ↑(p + 1) }
      else .stopped (.run (m.errorHere (.pointerMoved .right ↑p))) m := by
  simp only [move, here.pointer]
  by_cases fits : p + 1 < Tape.size
  · have target : (0 ≤ (p : Int) + 1 && (p : Int) + 1 < ↑Tape.size) = true := by
      simp only [Bool.and_eq_true, decide_eq_true_eq]
      omega
    rw [if_pos target, if_pos fits]
    rfl
  · have target : ¬ (0 ≤ (p : Int) + 1 && (p : Int) + 1 < ↑Tape.size) = true := by
      simp only [Bool.and_eq_true, decide_eq_true_eq]
      omega
    rw [if_neg target, if_neg fits, here.refuse_moved]

theorem At.move_left (here : m.At pc p) :
    m.move .left =
      if 0 < p then .done { m with pointer := ↑(p - 1) }
      else .stopped (.run (m.errorHere (.pointerMoved .left ↑p))) m := by
  have inside := here.inside
  simp only [move, here.pointer]
  by_cases fits : 0 < p
  · have target : (0 ≤ (p : Int) - 1 && (p : Int) - 1 < ↑Tape.size) = true := by
      simp only [Bool.and_eq_true, decide_eq_true_eq]
      omega
    rw [if_pos target, if_pos fits, Int.natCast_sub fits]
    rfl
  · have target : ¬ (0 ≤ (p : Int) - 1 && (p : Int) - 1 < ↑Tape.size) = true := by
      simp only [Bool.and_eq_true, decide_eq_true_eq]
      omega
    rw [if_neg target, if_neg fits, here.refuse_moved]

theorem At.jumpIf (here : m.At pc p) (test : UInt8 → Bool) (target : Option Int) :
    (m.jumpIf test target).next advance =
      if test (m.tape.cell p) then m.jump target else .done (m.pass pc) := by
  simp only [Machine.jumpIf, here.cell?]
  split
  · cases target <;> rfl
  · simp only [Outcome.next_done, advance, here.counter]
    rfl

theorem At.output [Writer ω] (here : m.At pc p) :
    m.output =
      match Writer.write m.writer ↑(m.tape.cell p).toNat with
      | (.ok (), writer) => .done { m with writer }
      | (.error failure, writer) =>
        .stopped (.ofError (m.errorHere (.channelFailed .output failure))) { m with writer } := by
  simp only [Machine.output, here.cell?, send_eq]
  rcases Writer.write m.writer ↑(m.tape.cell p).toNat with ⟨failure | _, writer⟩
  · dsimp only
    rw [refuse_eq (m := { m with writer }) here.counter]
    rfl
  · rfl

theorem At.input [Reader ρ] (here : m.At pc p) :
    m.input =
      match Reader.read m.reader with
      | (.error failure, reader) =>
        .stopped (.ofError (m.errorHere (.channelFailed .input failure))) { m with reader }
      | (.ok value, reader) =>
        match value.cell? with
        | none => .stopped (.ofError (m.errorHere (.badInput value))) { m with reader }
        | some cell => .done { m with reader, tape := m.tape.put p cell } := by
  unfold Machine.input
  rcases Reader.read m.reader with ⟨_ | value, reader⟩
  · dsimp only
    rw [refuse_eq here.counter]
  · cases cell : value.cell? with
    | none => simp only [cell, refuse_eq here.counter]
    | some new => simp only [cell, here.position]

variable [Reader ρ] [Writer ω]

theorem step_closed_eq (fuel : Nat) (inst : Instruction) (m : Machine ρ ω) :
    m.step fuel .closed inst =
      match m.entryFor inst with
      | .error failure => .stopped (.failure failure) m
      | .ok entry => ((m.recordStep entry).perform inst).next advance := rfl

theorem At.step_closed (here : m.At pc p) (fuel : Nat) :
    m.step fuel .closed inst = ((m.logged inst).perform inst).next advance := by
  simp [step, Gates.closed, Machine.logged, entryFor, here.cell?, here.counter]

/-- The effect of an instruction and the way to the next one. -/
theorem At.perform_advance (here : m.At pc p) :
    (m.perform inst).next advance =
      match inst.op with
      | .increment => .done ({ m with tape := m.tape.put p (m.tape.cell p + 1) }.pass pc)
      | .decrement => .done ({ m with tape := m.tape.put p (m.tape.cell p - 1) }.pass pc)
      | .moveRight =>
        if p + 1 < Tape.size then .done ({ m with pointer := ↑(p + 1) }.pass pc)
        else .stopped (.run (m.errorHere (.pointerMoved .right ↑p))) m
      | .moveLeft =>
        if 0 < p then .done ({ m with pointer := ↑(p - 1) }.pass pc)
        else .stopped (.run (m.errorHere (.pointerMoved .left ↑p))) m
      | .jumpIfZero => if m.tape.cell p = 0 then m.jump inst.target else .done (m.pass pc)
      | .jumpIfNonZero => if m.tape.cell p = 0 then .done (m.pass pc) else m.jump inst.target
      | .output =>
        match Writer.write m.writer ↑(m.tape.cell p).toNat with
        | (.ok (), writer) => .done ({ m with writer }.pass pc)
        | (.error failure, writer) =>
          .stopped (.ofError (m.errorHere (.channelFailed .output failure))) { m with writer }
      | .input =>
        match Reader.read m.reader with
        | (.error failure, reader) =>
          .stopped (.ofError (m.errorHere (.channelFailed .input failure))) { m with reader }
        | (.ok value, reader) =>
          match value.cell? with
          | none => .stopped (.ofError (m.errorHere (.badInput value))) { m with reader }
          | some cell => .done ({ m with reader, tape := m.tape.put p cell }.pass pc)
      | .other _ => .done (m.pass pc) := by
  obtain ⟨op, target⟩ := inst
  have goesOn {next : Machine ρ ω} (same : next.pc = m.pc) : advance next = .done (next.pass pc) := by
    simp only [advance, same, here.counter]
    rfl
  cases op with
  | increment => simp only [perform, here.changeCell, Outcome.next_done, goesOn]
  | decrement => simp only [perform, here.changeCell, Outcome.next_done, goesOn]
  | moveRight =>
    simp only [perform, here.move_right]
    split
    · exact goesOn rfl
    · rfl
  | moveLeft =>
    simp only [perform, here.move_left]
    split
    · exact goesOn rfl
    · rfl
  | jumpIfZero =>
    simp only [perform, here.jumpIf, beq_iff_eq]
  | jumpIfNonZero =>
    simp only [perform, here.jumpIf, bne_iff_ne, ne_eq, ite_not]
  | output =>
    simp only [perform, here.output]
    rcases Writer.write m.writer ↑(m.tape.cell p).toNat with ⟨_ | _, writer⟩
    · rfl
    · exact goesOn rfl
  | input =>
    simp only [perform, here.input]
    rcases Reader.read m.reader with ⟨_ | value, reader⟩ <;> dsimp only
    · rfl
    · cases value.cell? with
      | none => rfl
      | some cell => exact goesOn rfl
  | other name => exact goesOn rfl

end Machine

end TapeLang
