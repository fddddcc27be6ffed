import TapeLang.Proofs.Machine.Refusals
import TapeLang.Proofs.Outcome

/-! What an instruction can do to any machine, wherever its pointer and counter are.

An instruction touches tape, pointer, counter, reader and writer. What it does depends on nothing
else, and nothing else is changed by it. What each part of a step keeps, whatever hooks do at it, the
loop keeps. -/

set_option autoImplicit false

namespace TapeLang

def Opcode.IsJump (op : Opcode) : Prop := op = .jumpIfZero ∨ op = .jumpIfNonZero

namespace Machine

variable {ρ ω : Type}

def Effect (inst : Instruction) (m next : Machine ρ ω) : Prop :=
  ∃ tape pointer pc reader writer, next = { m with tape, pointer, pc, reader, writer } ∧
    (pointer = m.pointer ∨ 0 ≤ pointer ∧ pointer < Tape.size) ∧
    (pc = m.pc ∨ inst.op.IsJump ∧ pc = inst.target)

/-- How an instruction fails: off the tape, or with a reason to go no further. -/
def Fails (m : Machine ρ ω) (fault : Fault) (next : Machine ρ ω) : Prop :=
  ∃ reader writer, next = { m with reader, writer } ∧
    (fault = .failure (.tapeIndex m.pointer) ∧ Tape.position? m.pointer = none ∨
      ∃ reason : Reason, fault = m.refuse reason ∧
        (reason.kind = "PointerOutOfBounds" ∨ reason.kind = "IOFailure"))

variable {m : Machine ρ ω}

theorem cell?_eq_none (off : m.cell? = none) : Tape.position? m.pointer = none := by
  simpa [cell?, Tape.get?] using off

theorem changeCell_effect (inst : Instruction) (change : UInt8 → UInt8) :
    (m.changeCell change).Ends (Effect inst m) m.Fails := by
  unfold changeCell
  split
  · rename_i off
    exact ⟨_, _, rfl, .inl ⟨rfl, off⟩⟩
  · exact ⟨_, _, _, _, _, rfl, .inl rfl, .inl rfl⟩

theorem move_effect (inst : Instruction) (direction : Direction) :
    (m.move direction).Ends (Effect inst m) m.Fails := by
  unfold move
  extract_lets target
  split
  · rename_i inside
    simp only [Bool.and_eq_true, decide_eq_true_eq] at inside
    exact ⟨_, _, _, _, _, rfl, .inr inside, .inl rfl⟩
  · exact ⟨_, _, rfl, .inr ⟨.pointerMoved direction m.pointer, rfl, .inl rfl⟩⟩

theorem jumpIf_effect {inst : Instruction} (isJump : inst.op.IsJump) (test : UInt8 → Bool) :
    (m.jumpIf test inst.target).Ends (Effect inst m) m.Fails := by
  unfold jumpIf
  split
  · rename_i off
    exact ⟨_, _, rfl, .inl ⟨rfl, cell?_eq_none off⟩⟩
  · split
    · exact ⟨_, _, _, _, _, rfl, .inl rfl, .inr ⟨isJump, rfl⟩⟩
    · exact ⟨_, _, _, _, _, rfl, .inl rfl, .inl rfl⟩

theorem output_effect [Writer ω] (inst : Instruction) :
    m.output.Ends (Effect inst m) m.Fails := by
  unfold output
  split
  · exact ⟨_, _, rfl, .inr ⟨.channelFailed .output _, rfl, .inr rfl⟩⟩
  · rename_i cell _
    rw [send_eq]
    rcases Writer.write m.writer ↑cell.toNat with ⟨failure | _, writer⟩
    · exact ⟨_, _, rfl, .inr ⟨.channelFailed .output failure, rfl, .inr rfl⟩⟩
    · exact ⟨_, _, _, _, _, rfl, .inl rfl, .inl rfl⟩

theorem input_effect [Reader ρ] (inst : Instruction) : m.input.Ends (Effect inst m) m.Fails := by
  unfold input
  rcases Reader.read m.reader with ⟨failure | value, reader⟩
  · exact ⟨_, _, rfl, .inr ⟨.channelFailed .input failure, rfl, .inr rfl⟩⟩
  · dsimp only
    split
    · exact ⟨_, _, rfl, .inr ⟨.badInput value, rfl, .inr rfl⟩⟩
    · split
      · rename_i off
        exact ⟨_, _, rfl, .inl ⟨rfl, off⟩⟩
      · exact ⟨_, _, _, _, _, rfl, .inl rfl, .inl rfl⟩

variable [Reader ρ] [Writer ω]

theorem perform_effect (inst : Instruction) (m : Machine ρ ω) :
    (m.perform inst).Ends (Effect inst m) m.Fails := by
  unfold perform
  split
  · exact changeCell_effect inst _
  · exact changeCell_effect inst _
  · exact move_effect inst _
  · exact move_effect inst _
  · exact jumpIf_effect (.inl ‹_›) _
  · exact jumpIf_effect (.inr ‹_›) _
  · exact output_effect inst
  · exact input_effect inst
  · exact ⟨_, _, _, _, _, rfl, .inl rfl, .inl rfl⟩

/-- A machine after another one, with everything the same that instructions do not touch, and the
pointer on the tape if it was. -/
def Frames (m next : Machine ρ ω) : Prop :=
  ∃ tape pointer pc reader writer, next = { m with tape, pointer, pc, reader, writer } ∧
    (Tape.position? m.pointer ≠ none → Tape.position? pointer ≠ none)

theorem position?_ne_none {pointer : Int} (start : 0 ≤ pointer) (inside : pointer < Tape.size) :
    Tape.position? pointer ≠ none := by
  simp [Tape.position?, start, inside]

theorem perform_frames (inst : Instruction) (m : Machine ρ ω) :
    (m.perform inst).Ends m.Frames fun _ => m.Frames := by
  refine (perform_effect inst m).imp ?_ ?_
  · rintro next ⟨tape, pointer, pc, reader, writer, rfl, rfl | ⟨start, inside⟩, _⟩
    · exact ⟨_, _, _, _, _, rfl, id⟩
    · exact ⟨_, _, _, _, _, rfl, fun _ => position?_ne_none start inside⟩
  · rintro fault next ⟨reader, writer, rfl, _⟩
    exact ⟨_, _, _, _, _, rfl, id⟩

/-! ## Machines in the same state -/

structure SameCore {ρ ω : Type} (m n : Machine ρ ω) : Prop where
  tape : n.tape = m.tape
  pointer : n.pointer = m.pointer
  counter : n.pc = m.pc
  reader : n.reader = m.reader
  writer : n.writer = m.writer

/-- Faults of two machines for the same reason, each at its own place in the source. -/
inductive SameFault {ρ ω : Type} (m n : Machine ρ ω) : Fault → Fault → Prop where
  | failure {failure : Failure} : SameFault m n (.failure failure) (.failure failure)
  | run {reason : Reason} : SameFault m n (.run (m.errorHere reason)) (.run (n.errorHere reason))

omit [Reader ρ] [Writer ω] in
theorem SameFault.refuse {n left right : Machine ρ ω} (here : left.errorHere = m.errorHere)
    (there : right.errorHere = n.errorHere) (counter : right.pc = left.pc) (reason : Reason) :
    SameFault m n (left.refuse reason) (right.refuse reason) := by
  rw [Machine.refuse, Machine.refuse, here, there, counter]
  cases worded : reason.message with
  | ok message =>
    rw [Fault.ofError_of_message worded, Fault.ofError_of_message worded]
    cases left.pc with
    | none => exact .failure
    | some pc => exact .run
  | error why =>
    rw [Fault.ofError_of_unwritable worded, Fault.ofError_of_unwritable worded]
    exact .failure

theorem perform_same {n : Machine ρ ω} (same : m.SameCore n) (inst : Instruction) :
    (m.perform inst).Alike (SameFault m n) SameCore (n.perform inst) := by
  obtain ⟨program, _, _, verbose, history, hooks, _, _, _, log, journal, diagnostics⟩ := n
  obtain ⟨rfl, rfl, rfl, rfl, rfl⟩ := same
  obtain ⟨op, target⟩ := inst
  cases op with
  | increment | decrement =>
    simp only [perform, changeCell]
    split
    · exact .stopped .failure ⟨rfl, rfl, rfl, rfl, rfl⟩
    · exact .done ⟨rfl, rfl, rfl, rfl, rfl⟩
  | moveRight | moveLeft =>
    simp only [perform, move]
    split
    · exact .done ⟨rfl, rfl, rfl, rfl, rfl⟩
    · exact .stopped (.refuse (by rfl) (by rfl) (by rfl) _) ⟨rfl, rfl, rfl, rfl, rfl⟩
  | jumpIfZero | jumpIfNonZero =>
    simp only [perform, jumpIf, cell?]
    split
    · exact .stopped .failure ⟨rfl, rfl, rfl, rfl, rfl⟩
    · split <;> exact .done ⟨rfl, rfl, rfl, rfl, rfl⟩
  | output =>
    simp only [perform, output, cell?, send_eq]
    split
    · exact .stopped (.refuse (by rfl) (by rfl) (by rfl) _) ⟨rfl, rfl, rfl, rfl, rfl⟩
    · rename_i cell _
      rcases Writer.write m.writer ↑cell.toNat with ⟨_ | _, writer⟩
      · exact .stopped (.refuse (by rfl) (by rfl) (by rfl) _) ⟨rfl, rfl, rfl, rfl, rfl⟩
      · exact .done ⟨rfl, rfl, rfl, rfl, rfl⟩
  | input =>
    simp only [perform, input]
    rcases Reader.read m.reader with ⟨_ | value, reader⟩
    · exact .stopped (.refuse (by rfl) (by rfl) (by rfl) _) ⟨rfl, rfl, rfl, rfl, rfl⟩
    · dsimp only
      split
      · exact .stopped (.refuse (by rfl) (by rfl) (by rfl) _) ⟨rfl, rfl, rfl, rfl, rfl⟩
      · split
        · exact .stopped .failure ⟨rfl, rfl, rfl, rfl, rfl⟩
        · exact .done ⟨rfl, rfl, rfl, rfl, rfl⟩
  | other name => exact .done ⟨rfl, rfl, rfl, rfl, rfl⟩

-- Each of the two is kept as it was in everything else.
theorem perform_framed {n : Machine ρ ω} (same : m.SameCore n) (inst : Instruction) :
    (m.perform inst).Alike (SameFault m n)
      (fun next other => next.SameCore other ∧ m.Frames next ∧ n.Frames other) (n.perform inst) :=
  (perform_same same inst).and_ends (perform_frames inst m) (perform_frames inst n)

/-! ## The loop -/

theorem execute_succ_next (gates : Gates) (fuel : Nat) (m : Machine ρ ω) :
    execute gates (fuel + 1) m =
      match m.pc with
      | none => .stopped (.failure .noCounter) m
      | some pc =>
        match m.program.fetch pc with
        | .finished => .done m
        | .outside => .stopped (.failure (.instructionIndex pc)) m
        | .instruction inst => (m.step fuel gates inst).next (execute gates fuel) := by
  simp only [execute]
  cases m.pc with
  | none => rfl
  | some pc =>
    dsimp only
    cases m.program.fetch pc with
    | finished => rfl
    | outside => rfl
    | instruction inst =>
      dsimp only
      cases m.step fuel gates inst <;> rfl

omit [Reader ρ] [Writer ω] in
theorem hasWords_of_entryFor {inst : Instruction} {failure : Failure}
    (fails : m.entryFor inst = .error failure) : (Fault.failure failure).HasWords := by
  unfold entryFor at fails
  split at fails <;> cases fails <;> exact ⟨_, rfl⟩

section
variable {P : Machine ρ ω → Prop} {Q : Fault → Machine ρ ω → Prop} {gates : Gates} {fuel : Nat}
  (failed : ∀ m failure, (Fault.failure failure).HasWords → P m → Q (.failure failure) m)
include failed

/-- What each part of a step keeps, the step keeps. -/
theorem step_ends {inst : Instruction}
    (told : ∀ m, P m → (m.emitEvent fuel .beforeStep [.instruction inst]).Ends P Q)
    (taken : ∀ m entry, P m → m.entryFor inst = .ok entry →
      ((m.recordStep entry).perform inst).Ends P Q)
    (ruled : ∀ m entry, P m → (m.emitStep fuel entry).Ends P Q)
    (passed : ∀ m pc, P m → P { m with pc := some pc }) (holds : P m) :
    (m.step fuel gates inst).Ends P Q := by
  have before : (if gates.beforeStep then m.emitEvent fuel .beforeStep [.instruction inst]
      else .done m).Ends P Q := by
    split
    · exact told m holds
    · exact holds
  refine before.next fun m holds => ?_
  cases entered : m.entryFor inst with
  | error failure => exact failed m failure (hasWords_of_entryFor entered) holds
  | ok entry =>
    refine (taken m entry holds entered).next fun m holds => ?_
    have after : (if gates.rules then m.emitStep fuel entry else .done m).Ends P Q := by
      split
      · exact ruled m entry holds
      · exact holds
    refine after.next fun m holds => ?_
    unfold advance
    split
    · exact passed m _ holds
    · exact failed m _ ⟨_, rfl⟩ holds

/-- What each step keeps, the loop keeps. -/
theorem execute_ends
    (stepped : ∀ fuel m pc inst, P m → m.program.fetch pc = .instruction inst →
      (m.step fuel gates inst).Ends P Q) (holds : P m) : (execute gates fuel m).Ends P Q := by
  induction fuel generalizing m with
  | zero => trivial
  | succ fuel ih =>
    rw [execute_succ_next]
    split
    · exact failed m _ ⟨_, rfl⟩ holds
    · split
      · exact holds
      · exact failed m _ ⟨_, rfl⟩ holds
      · exact (stepped fuel m _ _ holds ‹_›).next fun _ holds => ih holds

end

end Machine

end TapeLang
