import TapeLang.Proofs.Machine.Run

/-! Reads and writes of a run, in their order.

The transfers of a run are read off the instructions that it takes. Replaying them takes the reader
and the writer to where the run leaves them, so none is missing and none is made up. -/

set_option autoImplicit false

namespace TapeLang

/-- A use of the reader or the writer, with its answer. -/
inductive Transfer where
  | wrote (cell : UInt8) (answer : Except Failure Unit)
  | read (answer : Except Failure Value)

section

variable {ρ ω : Type} [Reader ρ] [Writer ω]

def Opcode.transfer? (cell : UInt8) (reader : ρ) (writer : ω) : Opcode → Option Transfer
  | output => some (.wrote cell (Writer.write writer ↑cell.toNat).1)
  | input => some (.read (Reader.read reader).1)
  | _ => none

/-- How transfers take a reader and a writer from one state to another. -/
inductive Replay : ρ → ω → List Transfer → ρ → ω → Prop where
  | nil {reader : ρ} {writer : ω} : Replay reader writer [] reader writer
  | wrote {reader last : ρ} {writer final : ω} {cell : UInt8} {rest : List Transfer} :
      Replay reader (Writer.write writer ↑cell.toNat).2 rest last final →
      Replay reader writer (.wrote cell (Writer.write writer ↑cell.toNat).1 :: rest) last final
  | read {reader last : ρ} {writer final : ω} {rest : List Transfer} :
      Replay (Reader.read reader).2 writer rest last final →
      Replay reader writer (.read (Reader.read reader).1 :: rest) last final

theorem Replay.append {reader middle last : ρ} {writer between final : ω}
    {first rest : List Transfer} (left : Replay reader writer first middle between)
    (right : Replay middle between rest last final) :
    Replay reader writer (first ++ rest) last final := by
  induction left with
  | nil => exact right
  | wrote _ ih => exact .wrote (ih right)
  | read _ ih => exact .read (ih right)

section
variable {reader last : ρ} {writer final : ω} {transfers first rest : List Transfer}

theorem replay_nil : Replay reader writer [] last final ↔ last = reader ∧ final = writer := by
  constructor
  · rintro ⟨⟩
    exact ⟨rfl, rfl⟩
  · rintro ⟨rfl, rfl⟩
    exact .nil

theorem replay_wrote {cell : UInt8} {answer : Except Failure Unit} :
    Replay reader writer (.wrote cell answer :: rest) last final ↔
      answer = (Writer.write writer ↑cell.toNat).1 ∧
        Replay reader (Writer.write writer ↑cell.toNat).2 rest last final := by
  constructor
  · intro replay
    generalize same : Transfer.wrote cell answer :: rest = all at replay
    cases replay with
    | nil | read => cases same
    | wrote replay =>
      cases same
      exact ⟨rfl, replay⟩
  · rintro ⟨rfl, replay⟩
    exact .wrote replay

theorem replay_read {answer : Except Failure Value} :
    Replay reader writer (.read answer :: rest) last final ↔
      answer = (Reader.read reader).1 ∧ Replay (Reader.read reader).2 writer rest last final := by
  constructor
  · intro replay
    generalize same : Transfer.read answer :: rest = all at replay
    cases replay with
    | nil | wrote => cases same
    | read replay =>
      cases same
      exact ⟨rfl, replay⟩
  · rintro ⟨rfl, replay⟩
    exact .read replay

theorem Replay.of_append (replay : Replay reader writer (first ++ rest) last final) :
    ∃ middle between, Replay reader writer first middle between ∧
      Replay middle between rest last final := by
  induction first generalizing reader writer with
  | nil => exact ⟨reader, writer, .nil, replay⟩
  | cons transfer first ih =>
    rw [List.cons_append] at replay
    cases transfer with
    | wrote cell answer =>
      obtain ⟨answered, replay⟩ := replay_wrote.mp replay
      obtain ⟨middle, between, replay, rest⟩ := ih replay
      exact ⟨middle, between, replay_wrote.mpr ⟨answered, replay⟩, rest⟩
    | read answer =>
      obtain ⟨answered, replay⟩ := replay_read.mp replay
      obtain ⟨middle, between, replay, rest⟩ := ih replay
      exact ⟨middle, between, replay_read.mpr ⟨answered, replay⟩, rest⟩

theorem Replay.unique {left : ρ} {after : ω} (replay : Replay reader writer transfers last final)
    (again : Replay reader writer transfers left after) : left = last ∧ after = final := by
  induction replay with
  | nil => exact replay_nil.mp again
  | wrote _ ih => exact ih (replay_wrote.mp again).2
  | read _ ih => exact ih (replay_read.mp again).2

end

/-- A view of writers in which a writing leaves everything that was there. -/
def Retains {β : Type} (kept : ω → List β) : Prop :=
  ∀ writer cell, kept writer <+: kept (Writer.write writer cell).2

theorem Replay.retains {reader last : ρ} {writer final : ω} {transfers : List Transfer}
    (replay : Replay reader writer transfers last final) {β : Type} {kept : ω → List β}
    (retains : Retains kept) : kept writer <+: kept final := by
  induction replay with
  | nil => exact List.prefix_rfl
  | wrote _ ih => exact (retains _ _).trans ih
  | read _ ih => exact ih

theorem BufferWriter.retains_cells : Retains fun writer : BufferWriter => writer.cells.toList := by
  rintro ⟨codec, text, cells⟩ cell
  simp only [Writer.write, BufferWriter.write]
  cases codec.render cell <;> simp

theorem BufferWriter.retains_text : Retains fun writer : BufferWriter => writer.text.toList := by
  rintro ⟨codec, text, cells⟩ cell
  simp only [Writer.write, BufferWriter.write]
  cases codec.render cell <;> simp

theorem TextSink.retains_text : Retains fun sink : TextSink => sink.text.toList := by
  rintro ⟨codec, flushing, text, flushes⟩ cell
  simp only [Writer.write, TextSink.write]
  cases codec.render cell <;> simp

-- A writer that is made to fail keeps what it was given before.
theorem FaultyWriter.retains {β : Type} {kept : ω → List β} (retains : Retains kept) :
    Retains fun writer : FaultyWriter ω => kept writer.inner := by
  rintro ⟨inner, calls, fault⟩ cell
  simp only [Writer.write, FaultyWriter.write]
  split
  · split
    · exact List.prefix_rfl
    · exact retains inner cell
  · exact retains inner cell

end

namespace Machine

variable {ρ ω : Type} [Reader ρ] [Writer ω] {m last : Machine ρ ω} {pc : Int} {p k : Nat}
  {inst : Instruction}

def transfer? (m : Machine ρ ω) : Option Transfer :=
  match m.pc.map m.program.fetch, m.cell? with
  | some (.instruction inst), some cell => inst.op.transfer? cell m.reader m.writer
  | _, _ => none

/-- The transfers of a number of turns, or of as many as there are. -/
def transfers : Nat → Machine ρ ω → List Transfer
  | 0, _ => []
  | turns + 1, m =>
    m.transfer?.toList ++
      match m.turn? with
      | some (.done next) => transfers turns next
      | _ => []

theorem At.transfer? (here : m.At pc p) (fetched : m.program.fetch pc = .instruction inst) :
    m.transfer? = inst.op.transfer? (m.tape.cell p) m.reader m.writer := by
  simp only [Machine.transfer?, here.counter, Option.map_some, fetched, here.cell?]

theorem transfers_succ {next : Machine ρ ω} (turned : m.turn? = some (.done next)) (turns : Nat) :
    m.transfers (turns + 1) = m.transfer?.toList ++ next.transfers turns := by
  simp only [transfers, turned]

theorem transfers_stopped {fault : Fault} {state : Machine ρ ω}
    (stops : m.turn? = some (.stopped fault state)) (turns : Nat) :
    m.transfers (turns + 1) = m.transfer?.toList := by
  simp only [transfers, stops, List.append_nil]

theorem transfers_finished (finished : m.turn? = none) (turns : Nat) : m.transfers turns = [] := by
  have none : m.transfer? = none := by
    unfold turn? at finished
    unfold Machine.transfer?
    cases counter : m.pc with
    | none => rfl
    | some pc =>
      rw [counter] at finished
      dsimp only at finished
      cases fetched : m.program.fetch pc <;> rw [fetched] at finished <;> cases finished
      rw [Option.map_some, fetched]
  cases turns with
  | zero => rfl
  | succ turns => simp only [transfers, none, finished, Option.toList_none, List.append_nil]

theorem Reaches.transfers_add (reaches : m.Reaches k last) (turns : Nat) :
    m.transfers (k + turns) = m.transfers k ++ last.transfers turns := by
  induction reaches with
  | refl => simp only [transfers, Nat.zero_add, List.nil_append]
  | turn turned _ ih =>
    rw [Nat.add_right_comm, transfers_succ turned, transfers_succ turned, ih, List.append_assoc]

theorem At.replay_perform (here : m.At pc p) (inst : Instruction) :
    ((m.perform inst).next advance).Leaves fun next =>
      Replay m.reader m.writer (inst.op.transfer? (m.tape.cell p) m.reader m.writer).toList
        next.reader next.writer := by
  rw [here.perform_advance]
  cases inst.op with
  | increment | decrement | other => exact .nil
  | moveRight | moveLeft =>
    dsimp only
    split <;> exact .nil
  | jumpIfZero | jumpIfNonZero =>
    dsimp only
    cases inst.target <;> split <;> exact .nil
  | output =>
    have replay : Replay m.reader m.writer [.wrote (m.tape.cell p) _] m.reader _ := .wrote .nil
    simp only [Opcode.transfer?, Option.toList_some]
    rcases answered : Writer.write m.writer ↑(m.tape.cell p).toNat with ⟨_ | _, writer⟩ <;>
      rw [answered] at replay <;> exact replay
  | input =>
    have replay : Replay m.reader m.writer _ _ m.writer := .read .nil
    simp only [Opcode.transfer?, Option.toList_some]
    rcases answered : Reader.read m.reader with ⟨_ | value, reader⟩ <;> rw [answered] at replay
    · exact replay
    · dsimp only
      cases value.cell? <;> exact replay

theorem At.replay_turn (here : m.At pc p) {outcome : Outcome Fault (Machine ρ ω)}
    (turned : m.turn? = some outcome) :
    outcome.Leaves fun next => Replay m.reader m.writer m.transfer?.toList next.reader next.writer := by
  simp only [turn?, here.counter] at turned
  cases fetched : m.program.fetch pc with
  | finished =>
    rw [fetched] at turned
    cases turned
  | outside =>
    rw [fetched] at turned
    cases turned
    have none : m.transfer? = none := by
      simp only [Machine.transfer?, here.counter, Option.map_some, fetched]
    rw [none]
    exact .nil
  | instruction inst =>
    rw [fetched] at turned
    cases turned
    rw [here.step_closed, here.transfer? fetched]
    have replay := (here.logged inst).replay_perform inst
    simpa using replay

-- If the pointer and the counter are never lost, the transfers account for reader and writer.
theorem Reaches.replay (reaches : m.Reaches k last)
    (located : ∀ i state, m.Reaches i state → ∃ pc p, state.At pc p) :
    Replay m.reader m.writer (m.transfers k) last.reader last.writer := by
  induction reaches with
  | refl => exact .nil
  | turn turned _ ih =>
    obtain ⟨pc, p, here⟩ := located 0 _ .refl
    rw [transfers_succ turned]
    have first := here.replay_turn turned
    exact first.append (ih fun i state reaches => located (i + 1) state (.turn turned reaches))

/-- If the pointer and the counter are never lost, the transfers of a loop take the reader and the
writer to where the loop leaves them. -/
theorem replay_execute {fuel : Nat} {m : Machine ρ ω}
    (located : ∀ k state, m.Reaches k state → ∃ pc p, state.At pc p) :
    (execute .closed fuel m).Leaves fun state =>
      Replay m.reader m.writer (m.transfers fuel) state.reader state.writer := by
  -- Each turn's transfer is replayed before those of the turns after it.
  induction fuel generalizing m with
  | zero => trivial
  | succ fuel ih =>
    rw [execute_succ]
    obtain ⟨pc, p, here⟩ := located 0 m .refl
    cases turned : m.turn? with
    | none =>
      rw [transfers_finished turned]
      exact .nil
    | some outcome =>
      have first := here.replay_turn turned
      cases outcome with
      | done next =>
        rw [transfers_succ turned]
        refine (ih fun k state reaches => located (k + 1) state (.turn turned reaches)).imp ?_
        exact fun state rest => first.append rest
      | stopped fault state =>
        rw [transfers_stopped turned]
        exact first
      | exhausted => trivial

end Machine

end TapeLang
