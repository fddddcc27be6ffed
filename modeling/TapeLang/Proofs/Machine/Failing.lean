import TapeLang.Proofs.Machine.Effect
import TapeLang.Proofs.Machine.Transfers

/-! How an instruction fails.

A move can leave the tape, and a channel can fail or answer with something that is no cell. The run is
stopped by an error that says so, unless what the channel has answered with has no words. -/

set_option autoImplicit false

namespace TapeLang

def RunError.IsOrdinary (error : RunError) : Prop :=
  error.kind = "PointerOutOfBounds" ∨ error.kind = "IOFailure"

/-- The reason that a run is stopped for in the end: that there are no words for the first one, if
there are none. -/
def Reason.told (reason : Reason) : Reason :=
  match reason.message with
  | .ok _ => reason
  | .error why => .internal (.unwritable why)

theorem Reason.told_of_message {reason : Reason} {message : String}
    (worded : reason.message = .ok message) : reason.told = reason := by rw [told, worded]

theorem Reason.told_of_unworded {reason : Reason} {why : Unwritable}
    (unworded : reason.message = .error why) : reason.told = .internal (.unwritable why) := by
  rw [told, unworded]

def Value.IsCell (value : Value) : Prop := ∃ n : Int, value = .int n ∧ 0 ≤ n ∧ n < 256

theorem Value.cell?_eq_none {value : Value} : value.cell? = none ↔ ¬ value.IsCell := by
  cases value <;> simp [Value.cell?, IsCell]

def Opcode.LeavesTape (op : Opcode) (p : Nat) : Prop :=
  op = .moveLeft ∧ p = 0 ∨ op = .moveRight ∧ p = Tape.size - 1

section
variable {ρ ω : Type} [Reader ρ] [Writer ω]

/-- Whether an operation's channel fails: the writer refuses the cell, or the reader fails or answers
with something that is no cell. -/
def Opcode.ChannelFails (op : Opcode) (cell : UInt8) (reader : ρ) (writer : ω) : Prop :=
  op = .output ∧ (∃ failure, (Writer.write writer ↑cell.toNat).1 = .error failure) ∨
    op = .input ∧ ((∃ failure, (Reader.read reader).1 = .error failure) ∨
      ∃ value, (Reader.read reader).1 = .ok value ∧ ¬ value.IsCell)

/-- Whether an operation's channel fails with something that cannot be put into words: the failure that
it answers with, or a value that is no cell. -/
def Opcode.Untold (op : Opcode) (cell : UInt8) (reader : ρ) (writer : ω) (why : Unwritable) : Prop :=
  op = .output ∧ (∃ failure, (Writer.write writer ↑cell.toNat).1 = .error failure ∧
      failure.message = .error why) ∨
    op = .input ∧ ((∃ failure, (Reader.read reader).1 = .error failure ∧
        failure.message = .error why) ∨
      ∃ value, (Reader.read reader).1 = .ok value ∧ ¬ value.IsCell ∧ value.quoted = .error why)

def Opcode.Told (op : Opcode) (cell : UInt8) (reader : ρ) (writer : ω) : Prop :=
  ∀ why, ¬ op.Untold cell reader writer why

def Opcode.channelFailure? (op : Opcode) (cell : UInt8) (reader : ρ) (writer : ω) :
    Option Failure :=
  match op.transfer? cell reader writer with
  | some (.wrote _ (.error failure)) | some (.read (.error failure)) => some failure
  | _ => none

/-- How an operation fails at a cell, with the reason for it and what becomes of the channels. -/
inductive Refused (p : Nat) (cell : UInt8) (reader : ρ) (writer : ω) :
    Opcode → Reason → ρ → ω → Prop where
  | left : p = 0 → Refused p cell reader writer .moveLeft (.pointerMoved .left ↑p) reader writer
  | right : p = Tape.size - 1 →
      Refused p cell reader writer .moveRight (.pointerMoved .right ↑p) reader writer
  | write {failure : Failure} {next : ω} :
      Writer.write writer ↑cell.toNat = (.error failure, next) →
      Refused p cell reader writer .output (.channelFailed .output failure) reader next
  | read {failure : Failure} {next : ρ} : Reader.read reader = (.error failure, next) →
      Refused p cell reader writer .input (.channelFailed .input failure) next writer
  | value {value : Value} {next : ρ} : Reader.read reader = (.ok value, next) → ¬ value.IsCell →
      Refused p cell reader writer .input (.badInput value) next writer

variable {p : Nat} {cell : UInt8} {reader next : ρ} {writer after : ω} {op : Opcode}
  {reason : Reason}

theorem Refused.bounds (refused : Refused p cell reader writer op reason next after) :
    reason.kind = "PointerOutOfBounds" ↔ op.LeavesTape p := by
  cases refused <;> simp_all [Reason.kind, Opcode.LeavesTape]

theorem Refused.channel (refused : Refused p cell reader writer op reason next after) :
    reason.kind = "IOFailure" ↔ op.ChannelFails cell reader writer := by
  cases refused <;> simp_all [Reason.kind, Opcode.ChannelFails]

theorem Refused.untold {why : Unwritable}
    (refused : Refused p cell reader writer op reason next after) :
    reason.message = .error why ↔ op.Untold cell reader writer why := by
  cases refused with
  | left edge =>
    have inside : p < Tape.size := edge ▸ by decide
    obtain ⟨message, worded⟩ := Reason.exists_message_moved .left inside
    simp [worded, Opcode.Untold]
  | right edge =>
    have inside : p < Tape.size := edge ▸ by decide
    obtain ⟨message, worded⟩ := Reason.exists_message_moved .right inside
    simp [worded, Opcode.Untold]
  | write failed =>
    rw [Reason.message_eq_error (.inl ⟨_, rfl⟩)]
    simp [Opcode.Untold, failed]
  | read failed =>
    rw [Reason.message_eq_error (.inl ⟨_, rfl⟩)]
    simp [Opcode.Untold, failed]
  | @value value _ answered noCell =>
    rw [Reason.message]
    cases quoted : value.quoted <;>
      simp [quoted, Opcode.Untold, answered, noCell, bind, Except.bind, pure, Except.pure]

/-- The reason is told as it is if there are words for it. -/
theorem Refused.told_cases (refused : Refused p cell reader writer op reason next after) :
    op.Told cell reader writer ∧ reason.told = reason ∨
      ∃ why, op.Untold cell reader writer why ∧ reason.told = .internal (.unwritable why) := by
  cases worded : reason.message with
  | ok message =>
    refine .inl ⟨fun why untold => ?_, Reason.told_of_message worded⟩
    rw [refused.untold.mpr untold] at worded
    cases worded
  | error why => exact .inr ⟨why, refused.untold.mp worded, Reason.told_of_unworded worded⟩

theorem Opcode.Untold.unique {why other : Unwritable} (untold : op.Untold cell reader writer why)
    (too : op.Untold cell reader writer other) : why = other := by
  rcases untold with ⟨rfl, _, failed, wordless⟩ |
    ⟨rfl, ⟨_, failed, wordless⟩ | ⟨_, answered, _, wordless⟩⟩ <;> simp_all [Untold]

theorem Opcode.Untold.channelFails {why : Unwritable} (untold : op.Untold cell reader writer why) :
    op.ChannelFails cell reader writer := by
  rcases untold with ⟨rfl, failure, failed, _⟩ | ⟨rfl, ⟨failure, failed, _⟩ | ⟨value, answered, no, _⟩⟩
  · exact .inl ⟨rfl, failure, failed⟩
  · exact .inr ⟨rfl, .inl ⟨failure, failed⟩⟩
  · exact .inr ⟨rfl, .inr ⟨value, answered, no⟩⟩

theorem Refused.ordinary (refused : Refused p cell reader writer op reason next after) :
    reason.kind = "PointerOutOfBounds" ∨ reason.kind = "IOFailure" := by
  cases refused <;> simp [Reason.kind]

theorem Refused.cause (refused : Refused p cell reader writer op reason next after) :
    reason.cause? = op.channelFailure? cell reader writer := by
  cases refused <;> simp_all [Reason.cause?, Opcode.channelFailure?, Opcode.transfer?]

theorem Refused.linkedCause (refused : Refused p cell reader writer op reason next after) :
    reason.linkedCause? = reason.cause? := by
  cases refused <;> rfl

theorem Refused.reader_eq (refused : Refused p cell reader writer op reason next after) :
    next = if op = .input then (Reader.read reader).2 else reader := by
  cases refused <;> simp_all

theorem Refused.writer_eq (refused : Refused p cell reader writer op reason next after) :
    after = if op = .output then (Writer.write writer ↑cell.toNat).2 else writer := by
  cases refused <;> simp_all

theorem Refused.retains (refused : Refused p cell reader writer op reason next after) {β : Type}
    {kept : ω → List β} (retains : Retains kept) : kept writer <+: kept after := by
  rw [refused.writer_eq]
  split
  · exact retains _ _
  · exact List.prefix_rfl

theorem exists_refused (fails : op.LeavesTape p ∨ op.ChannelFails cell reader writer) :
    ∃ reason next after, Refused p cell reader writer op reason next after := by
  rcases fails with (⟨rfl, edge⟩ | ⟨rfl, edge⟩) | ⟨rfl, failure, failed⟩ |
    ⟨rfl, ⟨failure, failed⟩ | ⟨value, answered, noCell⟩⟩
  · exact ⟨_, _, _, .left edge⟩
  · exact ⟨_, _, _, .right edge⟩
  · exact ⟨_, _, _, .write (Prod.ext failed rfl)⟩
  · exact ⟨_, _, _, .read (Prod.ext failed rfl)⟩
  · exact ⟨_, _, _, .value (Prod.ext answered rfl) noCell⟩

end

namespace Machine

variable {ρ ω : Type} [Reader ρ] [Writer ω] {m : Machine ρ ω} {pc : Int} {p : Nat}
  {inst : Instruction}

theorem At.perform_refused (here : m.At pc p) {reason : Reason} {reader : ρ} {writer : ω}
    (refused : Refused p (m.tape.cell p) m.reader m.writer inst.op reason reader writer) :
    (m.perform inst).next advance =
      .stopped (.ofError (m.errorHere reason)) { m with reader, writer } := by
  rw [here.perform_advance]
  obtain ⟨op, target⟩ := inst
  cases refused with
  | left edge =>
    rw [← refuse_eq here.counter, here.refuse_moved]
    simp [edge]
  | right edge =>
    have stuck : ¬ p + 1 < Tape.size := by
      simp only [edge, Tape.size]
      omega
    rw [← refuse_eq here.counter, here.refuse_moved]
    exact if_neg stuck
  | write failed => simp only [failed]
  | read failed => simp only [failed]
  | value answered noCell => simp only [answered, Value.cell?_eq_none.mpr noCell]

-- Apart from jumps without a target, these are the only ways in which an instruction fails.
theorem At.refused_of_stopped (here : m.At pc p) (targeted : inst.op.IsJump → inst.target ≠ none)
    {fault : Fault} {state : Machine ρ ω}
    (stops : (m.perform inst).next advance = .stopped fault state) :
    ∃ reason reader writer,
      Refused p (m.tape.cell p) m.reader m.writer inst.op reason reader writer ∧
        fault = .ofError (m.errorHere reason) ∧ state = { m with reader, writer } := by
  have jumps (isJump : inst.op.IsJump) : m.jump inst.target ≠ .stopped fault state := by
    cases target : inst.target with
    | none => exact absurd target (targeted isJump)
    | some target => exact nofun
  rw [here.perform_advance] at stops
  obtain ⟨op, target⟩ := inst
  cases op with
  | increment | decrement | other => cases stops
  | moveRight =>
    have inside := here.inside
    dsimp only at stops
    split at stops <;> cases stops
    exact ⟨_, _, _, .right (by omega), by rw [← refuse_eq here.counter, here.refuse_moved], rfl⟩
  | moveLeft =>
    dsimp only at stops
    split at stops <;> cases stops
    exact ⟨_, _, _, .left (by omega), by rw [← refuse_eq here.counter, here.refuse_moved], rfl⟩
  | jumpIfZero =>
    dsimp only at stops
    split at stops
    · exact absurd stops (jumps (.inl rfl))
    · cases stops
  | jumpIfNonZero =>
    dsimp only at stops
    split at stops
    · cases stops
    · exact absurd stops (jumps (.inr rfl))
  | output =>
    dsimp only at stops
    split at stops <;> cases stops
    exact ⟨_, _, _, .write ‹_›, rfl, rfl⟩
  | input =>
    dsimp only at stops
    split at stops
    · cases stops
      exact ⟨_, _, _, .read ‹_›, rfl, rfl⟩
    · split at stops <;> cases stops
      exact ⟨_, _, _, .value ‹_› (Value.cell?_eq_none.mp ‹_›), rfl, rfl⟩

omit [Reader ρ] [Writer ω] in
/-- An error without words becomes an internal one, at the same place. -/
theorem report_ofError (counter : m.pc = some pc) (reason : Reason) :
    m.report (.ofError (m.errorHere reason)) = .run ((m.errorHere reason.told).attachStep m.log) := by
  cases worded : reason.message with
  | ok message =>
    rw [Fault.ofError_of_message worded, Reason.told_of_message worded]
    rfl
  | error why =>
    obtain ⟨message, words⟩ := Fault.hasWords_unwritable why
    rw [Fault.ofError_of_unwritable worded, Reason.told_of_unworded worded,
      report_of_message counter words]

omit [Reader ρ] [Writer ω] in
theorem At.report_refused (here : m.At pc p) (inst : Instruction) (reason : Reason) (reader : ρ)
    (writer : ω) :
    ({ m.logged inst with reader, writer } : Machine ρ ω).report (.ofError (m.errorHere reason)) =
      .run ((m.errorHere reason.told).attachStep (m.logged inst).log) := by
  have counter : ({ m.logged inst with reader, writer } : Machine ρ ω).pc = some pc :=
    (here.logged inst).counter
  have reported := report_ofError counter reason
  have same (reason : Reason) : ({ m.logged inst with reader, writer } : Machine ρ ω).errorHere reason =
      m.errorHere reason := errorHere_logged inst m reason
  rwa [same, same] at reported

theorem At.turn_refused (here : m.At pc p) (fetched : m.program.fetch pc = .instruction inst)
    {reason : Reason} {reader : ρ} {writer : ω}
    (refused : Refused p (m.tape.cell p) m.reader m.writer inst.op reason reader writer) :
    m.turn? =
      some (.stopped (.ofError (m.errorHere reason)) { m.logged inst with reader, writer }) := by
  rw [here.turn_eq fetched, (here.logged inst).perform_refused (by simpa), errorHere_logged]

/-- A loop that comes to a refused instruction is stopped there, and this is told. -/
theorem At.settle_refused (here : m.At pc p) (fetched : m.program.fetch pc = .instruction inst)
    {reason : Reason} {reader : ρ} {writer : ω}
    (refused : Refused p (m.tape.cell p) m.reader m.writer inst.op reason reader writer)
    {start : Machine ρ ω} {k fuel : Nat} (reaches : start.Reaches k m) (enough : k < fuel) :
    settle (execute .closed fuel start) =
      .stopped (.run ((m.errorHere reason.told).attachStep (m.logged inst).log))
        { m.logged inst with reader, writer } := by
  rw [reaches.execute_stopped (here.turn_refused fetched refused) enough, settle,
    here.report_refused inst reason reader writer]

/-- A run is stopped by an internal error if the first thing that it reads is a number that cannot be
written out. -/
theorem Fresh.run_unwritable (fresh : m.Fresh)
    (fetched : m.program.fetch 0 = .instruction inst) (input : inst.op = .input) {n : Int} {next : ρ}
    (answers : Reader.read m.reader = (.ok (.int n), next)) (tooLong : ¬ Decimal.Writable n)
    {fuel : Nat} (enough : 0 < fuel) :
    ∃ error state, m.run fuel = .stopped (.run error) state ∧
      error.reason = .internal (.unwritable .tooManyDigits) ∧ error.pc = some 0 := by
  have noCell : ¬ (Value.int n).IsCell := by
    rintro ⟨_, same, least, most⟩
    cases same
    exact tooLong (Decimal.writable_of_lt (show n.natAbs < 10 ^ 3 by omega) (by decide))
  have refused : Refused 0 (m.tape.cell 0) m.reader m.writer inst.op (.badInput (.int n)) next
      m.writer := input ▸ .value answers noCell
  have quoted : (Value.int n).quoted = .error .tooManyDigits := Decimal.numeral_of_not_writable tooLong
  have unworded : (Reason.badInput (.int n)).message = .error .tooManyDigits := by
    rw [Reason.message, quoted]
    rfl
  have here := fresh.initial.at
  refine ⟨_, _, (fresh.run_eq fuel).trans (here.settle_refused fetched refused .refl enough), ?_,
    here.counter⟩
  exact Reason.told_of_unworded unworded

end Machine

end TapeLang
