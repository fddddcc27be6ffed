import TapeLang.Proofs.Machine.Stops
import TapeLang.Proofs.Source.Symbols
import TapeLang.Proofs.Structured.Loops
import TapeLang.Proofs.Structured.Runs

/-! Programs that end in a loop of straight code.

The part before the loop, if it ends, leaves a cell and a place on the tape. These and the changes of
one round decide whether the loop ends, how many rounds it takes and what it leaves behind. -/

set_option autoImplicit false

namespace TapeLang

/-! ## Straight texts -/

def StraightText (text : List Char) : Prop :=
  ∀ c ∈ text, c ≠ '.' ∧ c ≠ ',' ∧ c ≠ '[' ∧ c ≠ ']'

instance (text : List Char) : Decidable (StraightText text) := List.decidableBAll _ text

namespace StraightText

variable {text : List Char}

theorem straight (plain : StraightText text) :
    ∀ op ∈ text.filterMap Opcode.ofSymbol?, op.Straight := by
  intro op member
  obtain ⟨c, inside, means⟩ := List.mem_filterMap.mp member
  have only := plain c inside
  unfold Opcode.ofSymbol? at means
  split at means <;> simp_all [Opcode.Straight]

theorem balanced (plain : StraightText text) : Balanced '[' ']' text := by
  have noOpener : '[' ∉ text := fun inside => (plain '[' inside).2.2.1 rfl
  have noCloser : ']' ∉ text := fun inside => (plain ']' inside).2.2.2 rfl
  refine ⟨fun start before => ?_, ?_⟩
  · rw [List.count_eq_zero.mpr fun inside => noCloser (before.subset inside)]
    exact Nat.zero_le _
  · rw [List.count_eq_zero.mpr noOpener, List.count_eq_zero.mpr noCloser]

end StraightText

theorem Opcode.travel_eq_count (ops : List Opcode) :
    travel ops = ops.count .moveRight - ops.count .moveLeft := by
  induction ops with
  | nil => rfl
  | cons op rest ih =>
    rw [travel_cons, ih]
    cases op <;> simp [movement] <;> omega

/-- A text moves the pointer as many cells to the right as it has `>` more than `<`. -/
theorem travel_ops (text : List Char) :
    Opcode.travel (text.filterMap Opcode.ofSymbol?) = text.count '>' - text.count '<' := by
  have right := count_ops (show Opcode.symbol? .moveRight = some '>' from rfl) text
  have left := count_ops (show Opcode.symbol? .moveLeft = some '<' from rfl) text
  rw [Opcode.travel_eq_count, right, left]

theorem travel_filterMap {text : List Char} (level : text.count '<' = text.count '>') :
    Opcode.travel (text.filterMap Opcode.ofSymbol?) = 0 := by
  rw [travel_ops, level, Int.sub_self]

-- The operations of a body come behind those of the first block and an opening bracket.
theorem Block.ops_append_loop {first inner : Block} {k : Nat} {op : Opcode}
    (found : inner.ops[k]? = some op) :
    (first.append (.loop inner .done)).ops[first.size + 1 + k]? = some op := by
  have size : first.ops.length = first.size := by
    rw [← first.map_op_code 0, List.length_map, length_code]
  have inside : k < inner.ops.length := (List.getElem?_eq_some_iff.mp found).1
  have place : first.size + 1 + k - first.size = k + 1 := by omega
  rw [ops_append, List.getElem?_append_right (by omega), size, place, ops, List.cons_append,
    List.getElem?_cons_succ, List.getElem?_append_left inside, found]

/-! ## Evaluations that come to a loop -/

section

variable {ρ ω : Type} [Reader ρ] [Writer ω]

/-- The evaluation of a block goes on, if it is given rounds enough, as that of a loop over straight
code that returns to its cell. -/
structure ComesTo (reader : ρ) (writer : ω) (block inner : Block) (index bound : Nat)
    (s : Store ρ ω) : Prop where
  evaluated : ∀ rounds, bound ≤ rounds →
    block.eval rounds 0 (.start reader writer) = (Block.loop inner .done).eval rounds index s
  straight : ∀ op ∈ inner.ops, op.Straight
  level : Opcode.travel inner.ops = 0

variable {reader : ρ} {writer : ω} {block inner : Block} {index bound : Nat} {s : Store ρ ω}

theorem ComesTo.clearable (comes : ComesTo reader writer block inner index bound s)
    (stays : s.cell = 0 ∨ Opcode.Stays inner.ops s.pointer.val) {rounds : Nat}
    (enough : bound ≤ rounds)
    (ends : block.eval rounds 0 (.start reader writer) ≠ .exhausted) : s.cell = 0 ∨
      ∃ k : Nat, 1 ≤ k ∧ (256 : Int) ∣ s.cell.toNat + k * Opcode.netChange inner.ops 0 := by
  by_contra never
  obtain ⟨nonZero, never⟩ := not_or.mp never
  rw [comes.evaluated rounds enough] at ends
  refine ends (Block.eval_loop_exhausted comes.straight comes.level nonZero
    (stays.resolve_left nonZero) ?_ ..)
  exact fun k one divides => never ⟨k, one, divides⟩

theorem ComesTo.cleared (comes : ComesTo reader writer block inner index bound s)
    (stays : s.cell = 0 ∨ Opcode.Stays inner.ops s.pointer.val) {rounds : Nat}
    (clears : Clears s.cell (Opcode.netChange inner.ops 0) rounds) :
    ∃ next, block.eval (max rounds bound) 0 (.start reader writer) = .done next ∧
      s.Changes next 0 (fun o => rounds * Opcode.netChange inner.ops o)
        (1 + rounds * (inner.ops.length + 1)) := by
  rw [comes.evaluated _ (Nat.le_max_right ..)]
  exact Block.eval_loop_clears comes.straight comes.level stays clears (Nat.le_max_left ..) index

theorem ComesTo.strayed (comes : ComesTo reader writer block inner index bound s)
    (nonZero : s.cell ≠ 0) (strays : ¬ Opcode.Stays inner.ops s.pointer.val) :
    ∃ before op reason next, Opcode.LeavesAt inner.ops s.pointer.val before op ∧
      block.eval (bound + 1) 0 (.start reader writer) =
        .stopped ⟨reason, index + 1 + before.length⟩ next ∧
      reason.kind = "PointerOutOfBounds" ∧
      s.Changes next (Opcode.travel before) (Opcode.netChange before) (before.length + 2) := by
  rw [comes.evaluated _ (Nat.le_succ bound)]
  exact Block.eval_loop_strays comes.straight nonZero strays bound index

end

namespace Machine

variable {ρ ω : Type}

/-! ## Ends -/

/-- The state after a loop that has cleared the cell at `p`, where `last` was the state before it. -/
structure Cleared (ops : List Opcode) (p rounds : Nat) (last state : Machine ρ ω) : Prop where
  pointer : state.pointer = ↑p
  cell : state.tape.cell p = 0
  others : ∀ q : Nat, q < Tape.size → q ≠ p → ((state.tape.cell q).toNat : Int) =
    ((last.tape.cell q).toNat + rounds * Opcode.netChange ops (q - p)) % 256
  untouched : ∀ q : Nat, q < Tape.size → q ≠ p → Opcode.netChange ops (q - p) = 0 →
    state.tape.cell q = last.tape.cell q
  steps : state.log.stepCount = last.log.stepCount + 1 + rounds * (ops.length + 1)
  reader : state.reader = last.reader
  writer : state.writer = last.writer

/-- The state and the error of a loop, with its first operation at the index `first`, that leaves the
tape at `op` in the first round. -/
structure Strayed (program : Program) (ops : List Opcode) (first p : Nat) (last : Machine ρ ω)
    (before : List Opcode) (op : Opcode) (error : RunError) (state : Machine ρ ω) : Prop where
  off : Opcode.LeavesAt ops p before op
  kind : error.kind = "PointerOutOfBounds"
  pc : error.pc = some ↑(first + before.length)
  found : program.ops[first + before.length]? = some op
  location : ∃ location, program.locations[first + before.length]? = some location ∧
    error.location = some location
  pointer : state.pointer = p + Opcode.travel before
  steps : state.log.stepCount = last.log.stepCount + 1 + (before.length + 1)

variable {program whole : Program} {last state : Machine ρ ω} {s next : Store ρ ω} {i j : Nat}

theorem Mirrors.cleared (start : last.Mirrors program i s) (finish : state.Mirrors whole j next)
    {ops : List Opcode} {rounds : Nat} (clears : Clears s.cell (Opcode.netChange ops 0) rounds)
    (changes : s.Changes next 0 (fun o => rounds * Opcode.netChange ops o)
      (1 + rounds * (ops.length + 1))) :
    Cleared ops s.pointer.val rounds last state where
  pointer := by
    have pointer := changes.pointer
    rw [finish.here.pointer]
    omega
  cell := by
    have cell := changes.cells s.pointer.val s.pointer.isLt
    have divides : (256 : Int) ∣ (s.tape.cell s.pointer).toNat + rounds * Opcode.netChange ops 0 :=
      clears.dvd
    rw [Int.sub_self, Int.emod_eq_zero_of_dvd divides] at cell
    rw [finish.tape, zero_iff_dvd, cell]
    exact Int.dvd_zero 256
  others q inside _ := by
    rw [finish.tape, start.tape]
    exact changes.cells q inside
  untouched q inside _ none := by
    have cell := changes.cells q inside
    have bound := (s.tape.cell q).toNat_lt
    rw [none, Int.mul_zero, Int.add_zero] at cell
    rw [finish.tape, start.tape, ← UInt8.toNat_inj]
    omega
  steps := by rw [finish.steps, start.steps, changes.steps, Nat.add_assoc]
  reader := by rw [finish.reader, start.reader, changes.reader]
  writer := by rw [finish.writer, start.writer, changes.writer]

theorem Mirrors.strayed (start : last.Mirrors program i s) (finish : state.Mirrors whole j next)
    {text filename : String} (loaded : load text filename = .ok whole) {ops before : List Opcode}
    {op : Opcode} {first : Nat} {error : RunError}
    (off : Opcode.LeavesAt ops s.pointer.val before op)
    (found : whole.ops[first + before.length]? = some op) (kind : error.kind = "PointerOutOfBounds")
    (pc : error.pc = some ↑(first + before.length))
    (location : error.location = whole.locate ↑(first + before.length))
    (changes : s.Changes next (Opcode.travel before) (Opcode.netChange before) (before.length + 2)) :
    Strayed whole ops first s.pointer.val last before op error state where
  off := off
  kind := kind
  pc := pc
  found := found
  location := by
    rw [whole.ops_getElem?, Option.map_eq_some_iff] at found
    obtain ⟨inst, inside, _⟩ := found
    obtain ⟨place, located⟩ := location_of_load loaded inside
    refine ⟨place, located, ?_⟩
    rw [location, ← located]
    exact if_pos (Int.natCast_nonneg _)
  pointer := by rw [finish.here.pointer, changes.pointer]
  steps := by rw [finish.steps, changes.steps, start.steps, Nat.add_assoc, Nat.add_comm 1]

/-! ## Runs and evaluations of a text -/

variable [Reader ρ] [Writer ω] {m : Machine ρ ω} {reader : ρ} {writer : ω} {verbose : Bool}
  {history : Option Int}

omit [Reader ρ] [Writer ω] in
theorem mirrors_of_create (created : create program reader writer verbose {} history = .ok m) :
    m.Mirrors program 0 (.start reader writer) := by
  obtain ⟨ownProgram, ownReader, ownWriter⟩ := setup_of_create created
  have initial := (fresh_of_create created).initial
  exact ⟨ownProgram, initial.at, initial.tape, ownReader, ownWriter, initial.stepCount⟩

section

variable {text filename : String} {block : Block} (loaded : load text filename = .ok program)
  (reads : block.Reads text.toList)
  (created : create program reader writer verbose {} history = .ok m)

include loaded reads

omit [Reader ρ] [Writer ω] in
theorem code_of_reads : program.code = (block.code 0).toArray := by
  rw [load_of_reads reads] at loaded
  cases loaded
  rfl

omit [Reader ρ] [Writer ω] in
theorem size_of_reads : program.size = block.size := by
  rw [Program.size, code_of_reads loaded reads, List.size_toArray, Block.length_code]

include created

theorem follows_of_create (rounds : Nat) : Follows program program.size (.start reader writer) m
    (block.eval rounds 0 (.start reader writer)) := by
  have holds := Program.holds_of_code (code_of_reads loaded reads)
  have follows := (mirrors_of_create created).follows_eval holds rounds
  rwa [Nat.zero_add, ← size_of_reads loaded reads] at follows

theorem run_ends_of_eval {rounds : Nat}
    (ends : block.eval rounds 0 (.start reader writer) ≠ .exhausted) :
    ∃ fuel, m.run fuel ≠ .exhausted :=
  (follows_of_create loaded reads created rounds).run_ends (fresh_of_create created) ends

theorem eval_ends_of_run {fuel rounds : Nat} (enough : fuel ≤ rounds)
    (ends : m.run fuel ≠ .exhausted) :
    block.eval rounds 0 (.start reader writer) ≠ .exhausted :=
  (mirrors_of_create created).ends_eval (Program.holds_of_code (code_of_reads loaded reads)) enough
    ((fresh_of_create created).run_ends.mp ends)

theorem sameEnd_of_ends {fuel rounds : Nat} (enough : m.run fuel ≠ .exhausted)
    (ends : block.eval rounds 0 (.start reader writer) ≠ .exhausted) :
    SameEnd program (m.transfers fuel) (m.run fuel)
      (block.eval rounds 0 (.start reader writer)) :=
  (follows_of_create loaded reads created rounds).same_end (fresh_of_create created)
    (linked_of_load loaded) (inRange_of_create created) rfl ends enough

/-! ## Loops at the end of a text -/

/-- What becomes of a run of a program that ends in a loop over straight operations, the first of
them at the index `first`. The part before the loop ends in the state `last` with the pointer at `p`. -/
structure CountsDown (program : Program) (ops : List Opcode) (first p : Nat)
    (last m : Machine ρ ω) : Prop where
  ends : last.tape.cell p = 0 ∨ Opcode.Stays ops p →
    ((∃ fuel, m.run fuel ≠ .exhausted) ↔ last.tape.cell p = 0 ∨
      ∃ k : Nat, 1 ≤ k ∧ (256 : Int) ∣ (last.tape.cell p).toNat + k * Opcode.netChange ops 0)
  clears : last.tape.cell p = 0 ∨ Opcode.Stays ops p → ∀ fuel, m.run fuel ≠ .exhausted →
    ∃ rounds state, Clears (last.tape.cell p) (Opcode.netChange ops 0) rounds ∧
      m.run fuel = .done state ∧ Cleared ops p rounds last state
  strays : last.tape.cell p ≠ 0 → ¬ Opcode.Stays ops p → (∃ fuel, m.run fuel ≠ .exhausted) ∧
    ∀ fuel, m.run fuel ≠ .exhausted → ∃ before op error state,
      m.run fuel = .stopped (.run error) state ∧
        Strayed program ops first p last before op error state

theorem countsDown_of_comesTo {start : Program} {inner : Block} {index bound : Nat}
    (comes : ComesTo reader writer block inner index bound s) (mirrors : last.Mirrors start index s)
    (found : ∀ k op, inner.ops[k]? = some op → program.ops[index + 1 + k]? = some op) :
    CountsDown program inner.ops (index + 1) s.pointer.val last m := by
  have cell : last.tape.cell s.pointer.val = s.cell := mirrors.cell
  have clearable (stays : s.cell = 0 ∨ Opcode.Stays inner.ops s.pointer.val) {fuel : Nat}
      (enough : m.run fuel ≠ .exhausted) : s.cell = 0 ∨
        ∃ k : Nat, 1 ≤ k ∧ (256 : Int) ∣ s.cell.toNat + k * Opcode.netChange inner.ops 0 :=
    comes.clearable stays (Nat.le_max_right fuel bound)
      (eval_ends_of_run loaded reads created (Nat.le_max_left fuel bound) enough)
  constructor
  · rw [cell]
    refine fun stays => ⟨fun ⟨_, enough⟩ => clearable stays enough, fun clears => ?_⟩
    obtain ⟨rounds, clears⟩ := exists_clears clears
    obtain ⟨next, taken, _⟩ := comes.cleared stays clears
    exact run_ends_of_eval loaded reads created fun exhausted => nomatch taken.symm.trans exhausted
  · rw [cell]
    intro stays fuel enough
    obtain ⟨rounds, clears⟩ := exists_clears (clearable stays enough)
    obtain ⟨next, taken, changes⟩ := comes.cleared stays clears
    have same := sameEnd_of_ends loaded reads created enough fun exhausted =>
      nomatch taken.symm.trans exhausted
    rw [taken] at same
    generalize m.run fuel = outcome at same
    cases same with
    | @done state _ finish _ =>
      exact ⟨rounds, state, clears, rfl, mirrors.cleared finish clears changes⟩
  · rw [cell]
    intro nonZero strays
    obtain ⟨before, op, reason, next, off, stopped, kind, changes⟩ := comes.strayed nonZero strays
    have ends : block.eval (bound + 1) 0 (.start reader writer) ≠ .exhausted :=
      fun exhausted => nomatch stopped.symm.trans exhausted
    refine ⟨run_ends_of_eval loaded reads created ends, fun fuel enough => ?_⟩
    have same := sameEnd_of_ends loaded reads created enough ends
    rw [stopped] at same
    generalize m.run fuel = outcome at same
    cases same with
    | @stopped error state _ _ finish _ reasonSame _ pc location =>
      have bounds : error.kind = "PointerOutOfBounds" := (congrArg Reason.kind reasonSame).trans kind
      exact ⟨before, op, error, state, rfl,
        mirrors.strayed finish loaded off (found _ _ off.getElem?) bounds pc location changes⟩

end

/-- Behind a text that loads and ends, a loop of straight code that moves as often to the left as to
the right counts down from the cell at which the text ends. -/
theorem run_countdown {text body filename : String} (loaded : load text filename = .ok program)
    (plain : StraightText body.toList) (level : body.toList.count '<' = body.toList.count '>')
    (created : create program reader writer verbose {} history = .ok m) {fuel : Nat}
    (ended : m.run fuel = .done last) :
    ∃ (p : Nat) (whole : Program), last.pointer = ↑p ∧ p < Tape.size ∧
      load (text ++ "[" ++ body ++ "]") filename = .ok whole ∧
      ∀ verbose history again, create whole reader writer verbose {} history = .ok again →
        CountsDown whole (body.toList.filterMap Opcode.ofSymbol?) (program.size + 1) p last
          again := by
  obtain ⟨block, reads, _⟩ := exists_reads_of_load loaded
  obtain ⟨inner, innerReads⟩ := Block.exists_reads plain.balanced
  have enough : m.run fuel ≠ .exhausted := by
    rw [ended]
    exact nofun
  have ends := eval_ends_of_run loaded reads created (Nat.le_refl fuel) enough
  have same := sameEnd_of_ends loaded reads created enough ends
  have size := size_of_reads loaded reads
  rw [ended] at same
  generalize first : block.eval fuel 0 (.start reader writer) = outcome at same
  cases same with
  | @done _ s mirrors _ =>
    have wholeReads : (block.append (.loop inner .done)).Reads
        (text ++ "[" ++ body ++ "]").toList := by
      have parts := reads.append (.loop innerReads .nil)
      simpa using parts
    have wholeLoaded := @load_of_reads _ filename _ wholeReads
    refine ⟨s.pointer, _, mirrors.here.pointer, s.pointer.isLt, wholeLoaded, ?_⟩
    intro verbose history again created
    have evaluated (rounds : Nat) (more : fuel ≤ rounds) :
        (block.append (.loop inner .done)).eval rounds 0 (.start reader writer) =
          (Block.loop inner .done).eval rounds program.size s := by
      have larger := Outcome.under_of_le (fun k => block.eval_under k 0 (.start reader writer)) more
      rw [Block.eval_append, larger.eq_done first, Outcome.next_done, Nat.zero_add, size]
    have straight := plain.straight
    have level := travel_filterMap level
    rw [innerReads.ops_eq] at straight level ⊢
    have comes : ComesTo reader writer (block.append (.loop inner .done)) inner program.size fuel s :=
      ⟨evaluated, straight, level⟩
    refine countsDown_of_comesTo wholeLoaded wholeReads created comes mirrors ?_
    intro k op found
    rw [Program.ops_of_load wholeLoaded, wholeReads.ops_eq, size]
    exact Block.ops_append_loop found

/-- One is moved to the cell on the right, in one round. -/
theorem run_countdown_moved :
    ∃ (m last : Machine ScriptReader BufferWriter) (plus whole : Program),
      load "+" "moved" = .ok plus ∧ create plus {} {} true {} none = .ok m ∧
        m.run 2 = .done last ∧ load "+[->+<]" "moved" = .ok whole ∧
        ∀ verbose history again, create whole {} {} verbose {} history = .ok again →
          CountsDown whole [.decrement, .moveRight, .increment, .moveLeft] 2 0 last again ∧
            ∃ fuel, again.run fuel ≠ .exhausted := by
  let reader : ScriptReader := {}
  let writer : BufferWriter := {}
  obtain ⟨plus, loaded, size⟩ : ∃ plus, load "+" "moved" = .ok plus ∧ plus.size = 1 := ⟨_, rfl, rfl⟩
  obtain ⟨m, last, created, ended, start, tape⟩ :
      ∃ m last, create plus reader writer true {} none = .ok m ∧ m.run 2 = .done last ∧
        last.pointer = 0 ∧ last.tape = Tape.blank.put 0 (Tape.blank.cell 0 + 1) := by
    cases loaded
    exact ⟨_, _, rfl, rfl, rfl, rfl⟩
  obtain ⟨p, whole, pointer, _, wholeLoaded, countsDown⟩ :=
    @run_countdown _ _ _ _ _ _ _ _ _ _ _ "+" "->+<" "moved" loaded (by decide) rfl created 2 ended
  obtain rfl : p = 0 := by omega
  rw [size] at countsDown
  refine ⟨m, last, plus, whole, loaded, created, ended, wholeLoaded, ?_⟩
  intro verbose history again created
  have runs := countsDown verbose history again created
  have one : last.tape.cell 0 = 1 := by
    rw [tape, Tape.cell_put_self _ (by decide)]
    simp [Tape.blank, Tape.cell]
  refine ⟨runs, (runs.ends (.inr ?_)).mpr (.inr ⟨1, Nat.le_refl 1, ?_⟩)⟩
  · simp [Opcode.ofSymbol?, Opcode.stays_cons, Opcode.stays_nil, Opcode.OnTape, Opcode.movement,
      Tape.size]
  · rw [one]
    decide

end Machine

end TapeLang
