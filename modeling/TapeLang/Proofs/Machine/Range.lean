import TapeLang.Proofs.Machine.Failing
import TapeLang.Proofs.Source.Matching

/-! Loaded programs stay in range.

Counter and pointer are in range at the start, and every turn keeps them there: a jump's target is
the index of a bracket, and a move past an end of the tape stops the run instead. -/

set_option autoImplicit false

namespace TapeLang

namespace Program

variable {program : Program} {k : Nat} {inst : Instruction}

-- A jump goes to the index of a bracket.
theorem Linked.target (linked : program.Linked) (found : program.code[k]? = some inst)
    (jumps : inst.op = .jumpIfZero ∨ inst.op = .jumpIfNonZero) :
    ∃ target : Nat, inst.target = some ↑target ∧ target < program.size := by
  rcases jumps with isOpening | isClosing
  · obtain ⟨closing, matched⟩ := linked.opening k inst found isOpening
    have same := matched.opens.symm.trans found
    cases same
    exact ⟨closing, rfl, (Array.getElem?_eq_some_iff.mp matched.closes).1⟩
  · obtain ⟨opening, matched⟩ := linked.closing k inst found isClosing
    have same := matched.closes.symm.trans found
    cases same
    exact ⟨opening, rfl, (Array.getElem?_eq_some_iff.mp matched.opens).1⟩

end Program

namespace Machine

variable {ρ ω : Type} {program : Program} {m : Machine ρ ω}

/-- The counter is at an instruction or at the end, and the pointer on the tape. -/
def InRange (program : Program) (m : Machine ρ ω) : Prop :=
  m.program = program ∧ ∃ pc p : Nat, m.At ↑pc p ∧ pc ≤ program.size

theorem inRange_of_create {reader : ρ} {writer : ω} {verbose : Bool} {history : Option Int}
    (created : create program reader writer verbose {} history = .ok m) : m.InRange program :=
  ⟨(setup_of_create created).1, 0, 0, (fresh_of_create created).initial.at, Nat.zero_le _⟩

variable [Reader ρ] [Writer ω]

def Keeps (program : Program) : Outcome Fault (Machine ρ ω) → Prop
  | .done next => next.InRange program
  | .stopped _ _ => True
  | .exhausted => False

theorem keeps_perform (linked : program.Linked) (same : m.program = program) {pc p : Nat}
    (here : m.At ↑pc p) {inst : Instruction} (found : program.code[pc]? = some inst) :
    Keeps program ((m.perform inst).next advance) := by
  have inside : pc < program.size := (Array.getElem?_eq_some_iff.mp found).1
  have goesOn {next : Machine ρ ω} (q : Nat) (pointer : next.pointer = ↑q) (within : q < Tape.size)
      (kept : next.program = m.program) : (next.pass pc).InRange program :=
    ⟨kept.trans same, pc + 1, q, ⟨rfl, pointer, within⟩, inside⟩
  have jumps (isJump : inst.op = .jumpIfZero ∨ inst.op = .jumpIfNonZero) :
      Keeps program (m.jump inst.target) := by
    obtain ⟨target, known, bound⟩ := linked.target found isJump
    rw [known]
    exact ⟨same, target + 1, p, ⟨rfl, here.pointer, here.inside⟩, bound⟩
  have passes : Keeps program (.done (m.pass pc)) := goesOn p here.pointer here.inside rfl
  -- Moves are guarded and jumps go to brackets; nothing else touches pointer or counter.
  rw [here.perform_advance]
  cases op : inst.op with
  | increment | decrement => exact goesOn p here.pointer here.inside rfl
  | moveRight =>
    dsimp only
    split
    · exact goesOn (p + 1) rfl ‹_› rfl
    · trivial
  | moveLeft =>
    have := here.inside
    dsimp only
    split
    · exact goesOn (p - 1) rfl (by omega) rfl
    · trivial
  | jumpIfZero =>
    dsimp only
    split
    · exact jumps (.inl op)
    · exact passes
  | jumpIfNonZero =>
    dsimp only
    split
    · exact passes
    · exact jumps (.inr op)
  | output =>
    dsimp only
    split
    · exact goesOn p here.pointer here.inside rfl
    · trivial
  | input =>
    dsimp only
    split
    · trivial
    · split
      · trivial
      · exact goesOn p here.pointer here.inside rfl
  | other name => exact passes

theorem InRange.turn (linked : program.Linked) (within : m.InRange program)
    {outcome : Outcome Fault (Machine ρ ω)} (turned : m.turn? = some outcome) :
    Keeps program outcome := by
  obtain ⟨same, pc, p, here, bound⟩ := within
  simp only [turn?, here.counter, same] at turned
  by_cases finished : pc = program.size
  · rw [finished, Program.fetch_size] at turned
    cases turned
  · obtain ⟨inst, found⟩ := Program.found_of_lt (show pc < program.size by omega)
    rw [Program.fetch_of_found found] at turned
    cases turned
    rw [here.step_closed]
    exact keeps_perform linked (by simp [same]) (here.logged inst) found

theorem InRange.reaches (linked : program.Linked) (within : m.InRange program) {k : Nat}
    {last : Machine ρ ω} (reaches : m.Reaches k last) : last.InRange program := by
  induction reaches with
  | refl => exact within
  | turn turned _ ih => exact ih (within.turn linked turned)

-- A loaded program has no jumps without a target.
theorem InRange.refused_of_stopped {program : Program} (linked : program.Linked)
    (within : m.InRange program) {fault : Fault} {state : Machine ρ ω}
    (stops : m.turn? = some (.stopped fault state)) :
    ∃ (pc p : Nat) (inst : Instruction), m.At ↑pc p ∧ program.code[pc]? = some inst ∧
      ∃ reason reader writer,
        Refused p (m.tape.cell p) m.reader m.writer inst.op reason reader writer ∧
          fault = .ofError (m.errorHere reason) ∧ state = { m.logged inst with reader, writer } := by
  obtain ⟨same, pc, p, here, bound⟩ := within
  rcases Nat.lt_or_eq_of_le bound with inside | rfl
  · obtain ⟨inst, found⟩ := Program.found_of_lt inside
    rw [here.turn_eq (by rw [same, Program.fetch_of_found found])] at stops
    have targeted (isJump : inst.op.IsJump) : inst.target ≠ none := by
      obtain ⟨target, known, _⟩ := linked.target found isJump
      rw [known]
      exact nofun
    obtain ⟨reason, reader, writer, refused, error, left⟩ :=
      (here.logged inst).refused_of_stopped targeted (Option.some.inj stops)
    rw [errorHere_logged] at error
    exact ⟨pc, p, inst, here, found, reason, reader, writer, by simpa using refused, error, left⟩
  · simp only [turn?, here.counter, same, Program.fetch_size] at stops
    cases stops

/-- A run stays in range: so does every state at the top of its loop, it finishes at the end of the
program, and it is stopped only by errors that instructions have, unless a channel has failed without
words. -/
structure RunsInRange (program : Program) (m : Machine ρ ω) : Prop where
  counter : ∀ k state, m.Reaches k state →
    ∃ pc : Nat, state.pc = some ↑pc ∧ pc ≤ program.size ∧
      (pc < program.size →
        ∃ inst, program.code[pc]? = some inst ∧ state.program.fetch ↑pc = .instruction inst)
  pointer : ∀ k state, m.Reaches k state →
    ∃ p : Nat, state.pointer = ↑p ∧ p < Tape.size ∧ state.cell? = some (state.tape.cell p)
  cells : ∀ k state, m.Reaches k state →
    state.tape.cells.size = Tape.size ∧ ∀ cell ∈ state.tape.cells, cell.toNat ≤ 255
  finish : ∀ fuel state, m.run fuel = .done state → state.pc = some ↑program.size
  errors : ∀ fuel fault state, m.run fuel = .stopped fault state →
    ∃ error, fault = .run error ∧
      (error.IsOrdinary ∨ ∃ why k last pc p inst, error.reason = .internal (.unwritable why) ∧
        m.Reaches k last ∧ last.At pc p ∧ program.fetch pc = .instruction inst ∧
        inst.op.Untold (last.tape.cell p) last.reader last.writer why)

theorem InRange.at_end (within : m.InRange program) (finished : m.turn? = none) :
    m.pc = some ↑program.size := by
  obtain ⟨same, pc, p, here, bound⟩ := within
  by_cases atEnd : pc = program.size
  · rw [here.counter, atEnd]
  · obtain ⟨inst, found⟩ := Program.found_of_lt (show pc < program.size by omega)
    simp only [turn?, here.counter, same, Program.fetch_of_found found] at finished
    cases finished

/-- No run of a loaded program leaves the program, the tape or the kinds of error of its
instructions, whatever it reads and wherever it writes to. -/
theorem run_in_range {text filename : String} (loaded : load text filename = .ok program)
    {reader : ρ} {writer : ω} {verbose : Bool} {history : Option Int}
    (created : create program reader writer verbose {} history = .ok m) :
    m.RunsInRange program := by
  have linked := linked_of_load loaded
  have fresh := fresh_of_create created
  have start : m.InRange program :=
    ⟨(setup_of_create created).1, 0, 0, fresh.initial.at, Nat.zero_le _⟩
  have within {k : Nat} {state : Machine ρ ω} (reaches : m.Reaches k state) :
      state.InRange program := start.reaches linked reaches
  refine ⟨?_, ?_, ?_, ?_, ?_⟩
  · intro k state reaches
    obtain ⟨same, pc, p, here, bound⟩ := within reaches
    refine ⟨pc, here.counter, bound, fun inside => ?_⟩
    obtain ⟨inst, found⟩ := Program.found_of_lt inside
    exact ⟨inst, found, by rw [same, Program.fetch_of_found found]⟩
  · intro k state reaches
    obtain ⟨_, pc, p, here, _⟩ := within reaches
    exact ⟨p, here.pointer, here.inside, here.cell?⟩
  · intro k state _
    exact ⟨state.tape.size_cells, fun cell _ => Nat.le_of_lt_succ cell.toNat_lt⟩
  · intro fuel state ends
    obtain ⟨k, reaches, finished⟩ := fresh.run_done ends
    exact (within reaches).at_end finished
  · intro fuel fault state ends
    obtain ⟨k, last, cause, reaches, stops, rfl⟩ := fresh.run_stopped ends
    obtain ⟨pc, p, inst, here, found, reason, reader, writer, refused, rfl, rfl⟩ :=
      (within reaches).refused_of_stopped linked stops
    refine ⟨_, here.report_refused inst reason reader writer, ?_⟩
    rcases refused.told_cases with ⟨_, told⟩ | ⟨why, untold, told⟩
    · rw [told]
      exact .inl refused.ordinary
    · rw [told]
      exact .inr ⟨why, k, last, ↑pc, p, inst, rfl, reaches, here, Program.fetch_of_found found, untold⟩

theorem echo_in_range :
    load ",[.\n,]" "echo" = .ok echo ∧
    ∃ m : Machine ScriptReader BufferWriter,
      create echo ⟨[.ok (.int 65), .ok (.bool true)]⟩ {} true {} (some 2) = .ok m ∧
        m.RunsInRange echo := by
  let reader : ScriptReader := ⟨[.ok (.int 65), .ok (.bool true)]⟩
  let writer : BufferWriter := {}
  have created : create echo reader writer true {} (some 2) = .ok _ := rfl
  exact ⟨load_echo, _, created, run_in_range load_echo created⟩

-- The log would have to keep more steps than it can.
theorem exists_unstarted :
    ∃ (program : Program) (m : Machine ScriptReader BufferWriter), load "<" = .ok program ∧
      create program {} {} false {} = .ok m ∧ program.code[0]? = some ⟨.moveLeft, none⟩ ∧
        ∀ fuel, ∃ state, ({ m with history := some Failure.wordBound } : Machine _ _).run fuel =
          .stopped (.failure (.historySize Failure.wordBound)) state :=
  ⟨_, _, rfl, rfl, rfl, fun fuel => ⟨_, run_of_history rfl fuel⟩⟩

-- The first thing that is read cannot be written out.
theorem exists_unwritable {n : Int} (tooLong : ¬ Decimal.Writable n) :
    ∃ (program : Program) (m : Machine ScriptReader BufferWriter) (error : RunError)
      (state : Machine ScriptReader BufferWriter), load "," = .ok program ∧
      create program ⟨[.ok (.int n)]⟩ {} false {} = .ok m ∧ ¬ (Value.int n).IsCell ∧
        m.run 1 = .stopped (.run error) state ∧
        error.reason = .internal (.unwritable .tooManyDigits) ∧ error.pc = some 0 := by
  let reader : ScriptReader := ⟨[.ok (.int n)]⟩
  let writer : BufferWriter := {}
  obtain ⟨program, loaded, found⟩ : ∃ program, load "," = .ok program ∧
      program.fetch 0 = .instruction ⟨.input, none⟩ := ⟨_, rfl, rfl⟩
  have created : create program reader writer false {} = .ok _ := rfl
  obtain ⟨error, state, stopped, reason, counter⟩ :=
    (fresh_of_create created).run_unwritable found rfl rfl tooLong Nat.zero_lt_one
  refine ⟨program, _, error, state, loaded, created, ?_, stopped, reason, counter⟩
  rintro ⟨_, same, least, most⟩
  cases same
  exact tooLong (Decimal.writable_of_lt (show n.natAbs < 10 ^ 3 by omega) (by decide))

/-- Two runs of loaded programs that are stopped by errors of other kinds. -/
theorem unordinary_stops :
    (∃ (program : Program) (m : Machine ScriptReader BufferWriter), load "<" = .ok program ∧
      create program {} {} false {} = .ok m ∧ ∀ fuel, ∃ failure state,
        ({ m with history := some Failure.wordBound } : Machine _ _).run fuel =
          .stopped (.failure failure) state ∧ failure.name = "OverflowError") ∧
    ∃ (program : Program) (m : Machine ScriptReader BufferWriter) (error : RunError)
      (state : Machine ScriptReader BufferWriter), load "," = .ok program ∧
      create program ⟨[.ok (.int (10 ^ Decimal.maxDigits))]⟩ {} false {} = .ok m ∧
        m.run 1 = .stopped (.run error) state ∧ error.kind = "Internal" ∧ ¬ error.IsOrdinary := by
  constructor
  · obtain ⟨program, m, loaded, created, _, unstarted⟩ := exists_unstarted
    refine ⟨program, m, loaded, created, fun fuel => ?_⟩
    obtain ⟨state, stopped⟩ := unstarted fuel
    exact ⟨_, state, stopped, rfl⟩
  · obtain ⟨program, m, error, state, loaded, created, _, stopped, reason, _⟩ :=
      exists_unwritable Decimal.not_writable_pow
    have kind : error.kind = "Internal" := congrArg Reason.kind reason
    refine ⟨program, m, error, state, loaded, created, stopped, kind, ?_⟩
    rw [RunError.IsOrdinary, kind]
    decide

end Machine

end TapeLang
