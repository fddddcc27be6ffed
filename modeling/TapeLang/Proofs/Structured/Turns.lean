import TapeLang.Proofs.Structured.Evaluation

/-! Turns of the loop against steps of an evaluation.

A machine mirrors a store if they agree in all but the counter, which is at a given index. A turn
then does what the evaluation does with the command or the bracket at that index. -/

set_option autoImplicit false

namespace TapeLang

namespace Machine

variable {ρ ω : Type}

structure Mirrors (program : Program) (index : Nat) (s : Store ρ ω) (m : Machine ρ ω) : Prop where
  program : m.program = program
  here : m.At ↑index ↑s.pointer
  tape : m.tape = s.tape
  reader : m.reader = s.reader
  writer : m.writer = s.writer
  steps : m.log.stepCount = s.steps

inductive Agrees (program : Program) (last : Nat) :
    Outcome CommandFault (Store ρ ω) → Outcome Fault (Machine ρ ω) → Prop where
  | done {s : Store ρ ω} {m : Machine ρ ω} :
      m.Mirrors program last s → Agrees program last (.done s) (.done m)
  | stopped {reason : Reason} {command : Nat} {s : Store ρ ω} {m : Machine ρ ω} :
      m.Mirrors program command s →
      Agrees program last (.stopped ⟨reason.told, command⟩ s)
        (.stopped (.ofError (m.errorHere reason)) m)

variable {program : Program} {index : Nat} {s : Store ρ ω} {m : Machine ρ ω} {inst : Instruction}

theorem Mirrors.cell (mirrors : m.Mirrors program index s) : m.tape.cell s.pointer = s.cell := by
  rw [mirrors.tape, Store.cell]

theorem Mirrors.location (mirrors : m.Mirrors program index s) :
    m.here = program.locate ↑index := by
  simp only [Machine.here, mirrors.here.counter, mirrors.program, Option.bind_some]

theorem Mirrors.logged (mirrors : m.Mirrors program index s) (inst : Instruction) :
    (m.logged inst).Mirrors program index s.tick where
  program := by rw [program_logged, mirrors.program]
  here := mirrors.here.logged inst
  tape := by rw [tape_logged, mirrors.tape, Store.tick]
  reader := by rw [reader_logged, mirrors.reader, Store.tick]
  writer := by rw [writer_logged, mirrors.writer, Store.tick]
  steps := by rw [mirrors.here.stepCount_logged, mirrors.steps, Store.tick]

theorem Mirrors.pass (mirrors : m.Mirrors program index s) (other : Nat) :
    (m.pass ↑other).Mirrors program (other + 1) s :=
  ⟨mirrors.program, ⟨rfl, mirrors.here.pointer, mirrors.here.inside⟩, mirrors.tape, mirrors.reader,
    mirrors.writer, mirrors.steps⟩

theorem Mirrors.put (mirrors : m.Mirrors program index s) (cell : UInt8) :
    { m with tape := m.tape.put s.pointer cell }.Mirrors program index (s.put cell) where
  program := mirrors.program
  here := ⟨mirrors.here.counter, mirrors.here.pointer, mirrors.here.inside⟩
  tape := by rw [mirrors.tape, Store.put]
  reader := mirrors.reader
  writer := mirrors.writer
  steps := mirrors.steps

theorem Mirrors.move (mirrors : m.Mirrors program index s) (pointer : Fin Tape.size) :
    { m with pointer := ↑pointer.val }.Mirrors program index { s with pointer } :=
  ⟨mirrors.program, ⟨mirrors.here.counter, rfl, pointer.isLt⟩, mirrors.tape, mirrors.reader,
    mirrors.writer, mirrors.steps⟩

theorem Mirrors.write (mirrors : m.Mirrors program index s) (writer : ω)
    (transfers : List Transfer) :
    { m with writer }.Mirrors program index { s with writer, transfers } :=
  ⟨mirrors.program, ⟨mirrors.here.counter, mirrors.here.pointer, mirrors.here.inside⟩,
    mirrors.tape, mirrors.reader, rfl, mirrors.steps⟩

theorem Mirrors.read (mirrors : m.Mirrors program index s) (reader : ρ)
    (transfers : List Transfer) :
    { m with reader }.Mirrors program index { s with reader, transfers } :=
  ⟨mirrors.program, ⟨mirrors.here.counter, mirrors.here.pointer, mirrors.here.inside⟩,
    mirrors.tape, rfl, mirrors.writer, mirrors.steps⟩

-- Whichever way a bracket goes, only the counter changes.
theorem Mirrors.choose (mirrors : m.Mirrors program index s) (ifZero ifNonZero : Nat) :
    ∃ next, (if s.cell = 0 then .done (m.pass ↑ifZero) else .done (m.pass ↑ifNonZero)) =
        (.done next : Outcome Fault (Machine ρ ω)) ∧
      next.Mirrors program ((if s.cell = 0 then ifZero else ifNonZero) + 1) s := by
  by_cases zero : s.cell = 0
  · simp only [if_pos zero]
    exact ⟨_, rfl, mirrors.pass ifZero⟩
  · simp only [if_neg zero]
    exact ⟨_, rfl, mirrors.pass ifNonZero⟩

theorem Mirrors.fetch (mirrors : m.Mirrors program index s)
    (found : program.code[index]? = some inst) :
    m.program.fetch ↑index = .instruction inst := by
  rw [mirrors.program, Program.fetch_of_found found]

variable [Reader ρ] [Writer ω]

theorem Mirrors.turn? (mirrors : m.Mirrors program index s)
    (found : program.code[index]? = some inst) :
    m.turn? = some (((m.logged inst).perform inst).next advance) :=
  mirrors.here.turn_eq (mirrors.fetch found)

theorem Mirrors.turn?_end (mirrors : m.Mirrors program program.size s) : m.turn? = none := by
  simp only [Machine.turn?, mirrors.here.counter, mirrors.program, Program.fetch_size]

-- The effect of a command, on the store and on the machine.
theorem Mirrors.perform (mirrors : m.Mirrors program index s) (c : Command) :
    Agrees program (index + 1)
      (match c.effect s with
        | .done after => .done after
        | .stopped reason after => .stopped ⟨reason.told, index⟩ after
        | .exhausted => .exhausted)
      ((m.perform ⟨c.op, none⟩).next advance) := by
  rw [mirrors.here.perform_advance]
  cases c with
  | moveRight =>
    simp only [Command.op, Command.effect, Store.moveRight]
    by_cases inside : s.pointer.val + 1 < Tape.size
    · rw [if_pos inside, dif_pos inside]
      exact .done ((mirrors.move ⟨_, inside⟩).pass index)
    · rw [if_neg inside, dif_neg inside, ← mirrors.here.refuse_moved, refuse_eq mirrors.here.counter]
      exact .stopped mirrors
  | moveLeft =>
    simp only [Command.op, Command.effect, Store.moveLeft]
    by_cases inside : 0 < s.pointer.val
    · rw [if_pos inside, if_pos inside]
      exact .done ((mirrors.move ⟨_, _⟩).pass index)
    · rw [if_neg inside, if_neg inside, ← mirrors.here.refuse_moved, refuse_eq mirrors.here.counter]
      exact .stopped mirrors
  | increment =>
    rw [mirrors.cell]
    exact .done ((mirrors.put _).pass index)
  | decrement =>
    rw [mirrors.cell]
    exact .done ((mirrors.put _).pass index)
  | output =>
    simp only [Command.op, Command.effect, Store.output, mirrors.cell, mirrors.writer]
    rcases Writer.write s.writer ↑s.cell.toNat with ⟨_ | _, writer⟩
    -- The error is put together before the writer is kept, but it does not depend on the writer.
    · exact .stopped (m := { m with writer }) (mirrors.write writer _)
    · exact .done ((mirrors.write writer _).pass index)
  | input =>
    simp only [Command.op, Command.effect, Store.input, mirrors.reader]
    rcases Reader.read s.reader with ⟨_ | value, reader⟩
    · exact .stopped (m := { m with reader }) (mirrors.read reader _)
    · dsimp only
      cases value.cell? with
      | none => exact .stopped (m := { m with reader }) (mirrors.read reader _)
      | some cell => exact .done (((mirrors.read reader _).put cell).pass index)

theorem Mirrors.transfer? (mirrors : m.Mirrors program index s)
    (found : program.code[index]? = some inst) :
    m.transfer? = inst.op.transfer? s.cell s.reader s.writer := by
  rw [mirrors.here.transfer? (mirrors.fetch found), mirrors.cell, mirrors.reader, mirrors.writer]

theorem transfers_effect (c : Command) (s : Store ρ ω) :
    (c.effect s).Leaves fun after =>
      after.transfers = s.transfers ++ (c.op.transfer? s.cell s.reader s.writer).toList := by
  cases c with
  | moveRight =>
    simp only [Command.effect, Store.moveRight]
    split <;> exact (List.append_nil _).symm
  | moveLeft =>
    simp only [Command.effect, Store.moveLeft]
    split <;> exact (List.append_nil _).symm
  | increment | decrement => exact (List.append_nil _).symm
  | output =>
    simp only [Command.effect, Store.output, Command.op, Opcode.transfer?]
    rcases Writer.write s.writer ↑s.cell.toNat with ⟨_ | _, writer⟩ <;> rfl
  | input =>
    simp only [Command.effect, Store.input, Command.op, Opcode.transfer?]
    rcases Reader.read s.reader with ⟨_ | value, reader⟩
    · rfl
    · dsimp only
      cases value.cell? <;> rfl

-- The turn of a command.
theorem Mirrors.command {c : Command} (mirrors : m.Mirrors program index s)
    (found : program.code[index]? = some ⟨c.op, none⟩) :
    ∃ outcome, m.turn? = some outcome ∧ Agrees program (index + 1) (c.eval index s) outcome ∧
      (c.eval index s).Leaves fun after =>
        after.transfers = s.transfers ++ m.transfer?.toList := by
  refine ⟨_, mirrors.turn? found, (mirrors.logged _).perform c, ?_⟩
  have kept := transfers_effect c s.tick
  rw [mirrors.transfer? found]
  unfold Command.eval
  cases effect : c.effect s.tick <;> rw [effect] at kept <;> exact kept

-- The turn of an opening bracket.
theorem Mirrors.opening {closing : Nat} (mirrors : m.Mirrors program index s)
    (found : program.code[index]? = some ⟨.jumpIfZero, some ↑closing⟩) :
    m.transfer? = none ∧ ∃ next, m.turn? = some (.done next) ∧
      next.Mirrors program ((if s.cell = 0 then closing else index) + 1) s.tick := by
  have logged := mirrors.logged ⟨.jumpIfZero, some ↑closing⟩
  obtain ⟨next, same, reached⟩ := logged.choose closing index
  refine ⟨mirrors.transfer? found, next, ?_, reached⟩
  rw [mirrors.turn? found, logged.here.perform_advance, logged.cell]
  exact congrArg some same

-- The turn of a closing bracket.
theorem Mirrors.closing {opening : Nat} (mirrors : m.Mirrors program index s)
    (found : program.code[index]? = some ⟨.jumpIfNonZero, some ↑opening⟩) :
    m.transfer? = none ∧ ∃ next, m.turn? = some (.done next) ∧
      next.Mirrors program ((if s.cell = 0 then index else opening) + 1) s.tick := by
  have logged := mirrors.logged ⟨.jumpIfNonZero, some ↑opening⟩
  obtain ⟨next, same, reached⟩ := logged.choose index opening
  refine ⟨mirrors.transfer? found, next, ?_, reached⟩
  rw [mirrors.turn? found, logged.here.perform_advance, logged.cell]
  exact congrArg some same

end Machine

end TapeLang
