import TapeLang.Proofs.Machine.Visits
import TapeLang.Proofs.Outcome

/-! The same machine with other channels.

A run without hooks depends on its channels by their answers only: with a reader and a writer that
answer the same transfers in the same way, it is the same run. -/

set_option autoImplicit false

namespace TapeLang

theorem Outcome.map_congr {ε σ τ : Type} {f g : σ → τ} {outcome : Outcome ε σ}
    (same : outcome.Leaves fun s => f s = g s) : outcome.map f = outcome.map g := by
  cases outcome with
  | done s => exact congrArg Outcome.done same
  | stopped e s => exact congrArg (Outcome.stopped e) same
  | exhausted => rfl

namespace Machine

variable {ρ ω σ τ : Type}

/-- The machine with other channels, which may be of other kinds. -/
def rewired (m : Machine ρ ω) (reader : σ) (writer : τ) : Machine σ τ :=
  { m with reader, writer }

section
variable (m : Machine ρ ω) (reader : σ) (writer : τ)

@[simp] theorem reader_rewired : (m.rewired reader writer).reader = reader := rfl

@[simp] theorem writer_rewired : (m.rewired reader writer).writer = writer := rfl

@[simp] theorem tape_rewired : (m.rewired reader writer).tape = m.tape := rfl

@[simp] theorem program_rewired : (m.rewired reader writer).program = m.program := rfl

theorem logged_rewired (inst : Instruction) :
    (m.rewired reader writer).logged inst = (m.logged inst).rewired reader writer := by
  have same : (m.rewired reader writer).entryFor inst = m.entryFor inst := rfl
  simp only [logged, same]
  cases m.entryFor inst <;> rfl

theorem jump_rewired (target : Option Int) :
    (m.rewired reader writer).jump target =
      (m.jump target).map fun next => next.rewired reader writer := by
  cases target <;> rfl

theorem reset_rewired :
    (m.rewired reader writer).reset = m.reset.map fun m => m.rewired reader writer := by
  simp only [reset, rewired]
  cases StepLog.capacity m.history <;> rfl

end

theorem Fresh.rewired {m : Machine ρ ω} (fresh : m.Fresh) (reader : σ) (writer : τ) :
    (m.rewired reader writer).Fresh := by
  refine ⟨?_, fresh.hooks⟩
  rw [reset_rewired, fresh.reset]
  rfl

theorem create_rewired {program : Program} {reader : ρ} {writer : ω} {verbose : Bool}
    {hooks : HookRegistry} {history : Option Int} {m : Machine ρ ω} {n : Machine σ τ} {other : σ}
    {another : τ} (created : create program reader writer verbose hooks history = .ok m)
    (createdToo : create program other another verbose hooks history = .ok n) :
    n = m.rewired other another := by
  have same : create program other another verbose hooks history =
      (create program reader writer verbose hooks history).map fun m =>
        m.rewired other another := by
    simp only [create, reset]
    cases StepLog.capacity history <;> rfl
  rw [same, created] at createdToo
  cases createdToo
  rfl

theorem settle_rewired (outcome : Outcome Fault (Machine ρ ω)) (reader : σ) (writer : τ) :
    settle (outcome.map fun m => m.rewired reader writer) =
      (settle outcome).map fun m => m.rewired reader writer := by
  cases outcome with
  | done m | exhausted => rfl
  | stopped fault m =>
    cases fault with
    | run error => rfl
    | failure failure =>
      have same : (m.rewired reader writer).report (.failure failure) =
          m.report (.failure failure) := by
        simp only [report]
        cases m.pc <;> rfl
      exact congrArg (Outcome.stopped · _) same

variable {m state : Machine ρ ω} {pc : Int} {p turns : Nat} {reader last : σ} {writer final : τ}

theorem At.rewired (here : m.At pc p) (reader : σ) (writer : τ) :
    (m.rewired reader writer).At pc p := ⟨here.counter, here.pointer, here.inside⟩

variable [Reader ρ] [Writer ω] [Reader σ] [Writer τ]

/-- An instruction does the same with channels that answer its transfer in the same way. -/
theorem At.perform_rewired (here : m.At pc p) (inst : Instruction)
    (replay : Replay reader writer
      (inst.op.transfer? (m.tape.cell p) m.reader m.writer).toList last final) :
    ((m.rewired reader writer).perform inst).next advance =
      ((m.perform inst).next advance).map fun next => next.rewired last final := by
  rw [here.perform_advance, (here.rewired reader writer).perform_advance]
  obtain ⟨op, target⟩ := inst
  cases op with
  | increment | decrement | other =>
    obtain ⟨rfl, rfl⟩ := replay_nil.mp replay
    rfl
  | moveRight | moveLeft =>
    obtain ⟨rfl, rfl⟩ := replay_nil.mp replay
    dsimp only
    split <;> rfl
  | jumpIfZero | jumpIfNonZero =>
    obtain ⟨rfl, rfl⟩ := replay_nil.mp replay
    simp only [tape_rewired, jump_rewired, apply_ite (Outcome.map _)]
    rfl
  | output =>
    obtain ⟨answered, rest⟩ := replay_wrote.mp replay
    obtain ⟨rfl, rfl⟩ := replay_nil.mp rest
    dsimp only [writer_rewired, tape_rewired]
    rcases written : Writer.write m.writer ↑(m.tape.cell p).toNat with ⟨_ | _, _⟩ <;>
      rcases again : Writer.write writer ↑(m.tape.cell p).toNat with ⟨_ | _, _⟩ <;>
      rw [written, again] at answered <;> cases answered <;> rfl
  | input =>
    obtain ⟨answered, rest⟩ := replay_read.mp replay
    obtain ⟨rfl, rfl⟩ := replay_nil.mp rest
    dsimp only [reader_rewired]
    rcases given : Reader.read m.reader with ⟨_ | value, _⟩ <;>
      rcases again : Reader.read reader with ⟨_ | _, _⟩ <;>
      rw [given, again] at answered <;> cases answered
    · rfl
    · dsimp only
      cases value.cell? <;> rfl

theorem At.turn_rewired (here : m.At pc p)
    (replay : Replay reader writer m.transfer?.toList last final) :
    (m.rewired reader writer).turn? =
      m.turn?.map fun outcome => outcome.map fun next => next.rewired last final := by
  have hereToo := here.rewired reader writer
  cases fetched : m.program.fetch pc with
  | finished => simp only [turn?, here.counter, hereToo.counter, program_rewired, fetched, Option.map]
  | outside =>
    have none : m.transfer? = none := by
      simp only [Machine.transfer?, here.counter, Option.map_some, fetched]
    rw [none] at replay
    obtain ⟨rfl, rfl⟩ := replay_nil.mp replay
    simp only [turn?, here.counter, hereToo.counter, program_rewired, fetched, Option.map]
    rfl
  | instruction inst =>
    rw [here.transfer? fetched] at replay
    rw [here.turn_eq fetched, hereToo.turn_eq fetched, logged_rewired,
      (here.logged inst).perform_rewired inst (by simpa using replay)]
    rfl

theorem At.transfer?_rewired (here : m.At pc p)
    (replay : Replay reader writer m.transfer?.toList last final) :
    (m.rewired reader writer).transfer? = m.transfer? := by
  have hereToo := here.rewired reader writer
  cases fetched : m.program.fetch pc with
  | finished | outside =>
    simp only [Machine.transfer?, here.counter, hereToo.counter, program_rewired, fetched,
      Option.map_some]
  | instruction inst =>
    have fetchedToo : (m.rewired reader writer).program.fetch pc = .instruction inst := fetched
    rw [here.transfer? fetched] at replay
    rw [here.transfer? fetched, hereToo.transfer? fetchedToo]
    cases op : inst.op with
    | output =>
      rw [op] at replay
      exact congrArg (fun answer => some (Transfer.wrote _ answer)) (replay_wrote.mp replay).1.symm
    | input =>
      rw [op] at replay
      exact congrArg (fun answer => some (Transfer.read answer)) (replay_read.mp replay).1.symm
    | _ => rfl

/-! ## Runs -/

theorem Reaches.rewired (reaches : m.Reaches turns state) (here : m.At pc p)
    (replay : Replay reader writer (m.transfers turns) last final) :
    (m.rewired reader writer).Reaches turns (state.rewired last final) := by
  induction reaches generalizing pc p reader writer with
  | refl =>
    obtain ⟨rfl, rfl⟩ := replay_nil.mp replay
    exact .refl
  | turn turned _ ih =>
    obtain ⟨pc, p, next⟩ := here.turn_at turned
    rw [transfers_succ turned] at replay
    obtain ⟨middle, between, first, rest⟩ := replay.of_append
    refine .turn ?_ (ih next rest)
    rw [here.turn_rewired first, turned]
    rfl

theorem At.transfers_rewired (here : m.At pc p)
    (replay : Replay reader writer (m.transfers turns) last final) :
    (m.rewired reader writer).transfers turns = m.transfers turns := by
  induction turns generalizing m pc p reader writer with
  | zero => rfl
  | succ turns ih =>
    obtain ⟨middle, between, first, rest⟩ := Replay.of_append replay
    rw [transfers, transfers, here.transfer?_rewired first, here.turn_rewired first]
    congr 1
    cases turned : m.turn? with
    | none => rfl
    | some outcome =>
      cases outcome with
      | done next =>
        obtain ⟨pc, p, there⟩ := here.turn_at turned
        rw [turned] at rest
        exact ih there rest
      | stopped | exhausted => rfl

theorem At.execute_rewired (here : m.At pc p)
    (replay : Replay reader writer (m.transfers turns) last final) :
    execute .closed turns (m.rewired reader writer) =
      (execute .closed turns m).map fun state => state.rewired last final := by
  induction turns generalizing m pc p reader writer with
  | zero => rfl
  | succ turns ih =>
    obtain ⟨middle, between, first, rest⟩ := Replay.of_append replay
    rw [execute_succ, execute_succ, here.turn_rewired first]
    cases turned : m.turn? with
    | none =>
      rw [transfers_finished turned] at replay
      obtain ⟨rfl, rfl⟩ := replay_nil.mp replay
      rfl
    | some outcome =>
      rw [turned] at rest
      cases outcome with
      | done next =>
        obtain ⟨pc, p, there⟩ := here.turn_at turned
        exact ih there rest
      | stopped fault state =>
        obtain ⟨rfl, rfl⟩ := replay_nil.mp rest
        rfl
      | exhausted => rfl

/-- Whether a machine does the same as another in a number of turns, in some view of its states. -/
structure Repeats (view : Machine ρ ω → Machine σ τ) (turns : Nat) (m : Machine ρ ω)
    (n : Machine σ τ) : Prop where
  transfers : n.transfers turns = m.transfers turns
  reaches : ∀ state, m.Reaches turns state → n.Reaches turns (view state)
  run : n.run turns = (m.run turns).map view

/-- A number of turns makes its transfers with the machine's own channels. -/
theorem At.exists_replay (here : m.At pc p) (turns : Nat) :
    ∃ last final, Replay m.reader m.writer (m.transfers turns) last final := by
  induction turns generalizing m pc p with
  | zero => exact ⟨_, _, .nil⟩
  | succ turns ih =>
    have one : ∃ last final, Replay m.reader m.writer m.transfer?.toList last final := by
      cases fetched : m.program.fetch pc with
      | finished | outside =>
        simp only [Machine.transfer?, here.counter, Option.map_some, fetched]
        exact ⟨_, _, .nil⟩
      | instruction inst =>
        rw [here.transfer? fetched]
        cases inst.op with
        | output => exact ⟨_, _, .wrote .nil⟩
        | input => exact ⟨_, _, .read .nil⟩
        | _ => exact ⟨_, _, .nil⟩
    rcases m.visits_cases turns with ⟨next, turned, _⟩ | ⟨ends, _⟩
    · obtain ⟨pc, p, there⟩ := here.turn_at turned
      obtain ⟨last, final, rest⟩ := ih there
      have first := here.replay_turn turned
      exact ⟨last, final, transfers_succ turned turns ▸ first.append rest⟩
    · rw [transfers]
      split
      · exact absurd ‹_› (ends _)
      · rwa [List.append_nil]

theorem At.replay_afterSteps (here : m.At pc p) (after : m.AfterSteps turns state) :
    Replay m.reader m.writer (m.transfers turns) state.reader state.writer := by
  cases after with
  | top reaches => exact reaches.replay fun _ _ => here.located
  | stopped reaches turned =>
    obtain ⟨pc, p, there⟩ := here.located reaches
    have last := there.replay_turn turned
    rw [reaches.transfers_add, transfers_stopped turned]
    exact (reaches.replay fun _ _ => here.located).append last

theorem Fresh.run_replay (fresh : m.Fresh) (turns : Nat) :
    (m.run turns).Leaves fun state =>
      Replay m.reader m.writer (m.transfers turns) state.reader state.writer := by
  rw [fresh.run_eq]
  exact settle_leaves (replay_execute fun _ _ => fresh.initial.at.located)

/-- With other channels a run is the same if these can make its transfers, too. The view only has to be
right for what the run leaves its own channels as. -/
theorem repeats_of_replay {program : Program} {own : ρ} {sink : ω} {verbose : Bool}
    {history : Option Int} {n : Machine σ τ}
    (created : create program own sink verbose {} history = .ok m)
    (createdToo : create program reader writer verbose {} history = .ok n)
    {view : Machine ρ ω → Machine σ τ}
    (replays : ∀ left after, Replay own sink (m.transfers turns) left after →
      ∃ last final, Replay reader writer (m.transfers turns) last final ∧
        ∀ state : Machine ρ ω, state.reader = left → state.writer = after →
          state.rewired last final = view state) :
    Repeats view turns m n := by
  have fresh := fresh_of_create created
  have start := fresh.initial.at
  obtain ⟨_, rfl, rfl⟩ := setup_of_create created
  obtain rfl := create_rewired created createdToo
  obtain ⟨left, after, replay⟩ := start.exists_replay turns
  obtain ⟨last, final, again, views⟩ := replays left after replay
  have viewed (state : Machine ρ ω)
      (made : Replay m.reader m.writer (m.transfers turns) state.reader state.writer) :
      state.rewired last final = view state :=
    views state (replay.unique made).1 (replay.unique made).2
  refine ⟨start.transfers_rewired again, fun state reaches => ?_, ?_⟩
  · rw [← viewed state (reaches.replay fun _ _ => start.located)]
    exact reaches.rewired start again
  · rw [(fresh.rewired reader writer).run_eq, fresh.run_eq, start.execute_rewired again,
      settle_rewired, ← fresh.run_eq]
    exact Outcome.map_congr ((fresh.run_replay turns).imp viewed)

end Machine

end TapeLang
