import TapeLang.Proofs.Structured.Countdown

/-! Walks over the tape.

Where a text without loops, output and input takes the pointer, and what it adds to each cell, can be
counted in the text itself: by the displacement of a prefix, and by how often a symbol is executed at
a displacement. The run ends unless a prefix leaves the tape, and then stops with the first that
does. -/

set_option autoImplicit false

namespace TapeLang

/-! ## Counting in a text -/

/-- How far a text takes the pointer, if nothing stops it: as many cells to the right as it has `>`
more than `<`. -/
def displacement (text : List Char) : Int := text.count '>' - text.count '<'

/-- How often a text executes a symbol at a displacement: the number of the places where the symbol
stands behind a prefix with that displacement. -/
def executedAt (symbol : Char) (text : List Char) (place : Int) : Nat :=
  (List.range text.length).countP fun i => text[i]? = some symbol ∧ displacement (text.take i) = place

/-- Whether every prefix of a text has a cell of the tape for its displacement. -/
def KeepsToTape (text : List Char) : Prop :=
  ∀ start, start <+: text → 0 ≤ displacement start ∧ displacement start < Tape.size

instance (text : List Char) : Decidable (KeepsToTape text) :=
  decidable_of_iff (∀ start ∈ text.inits, 0 ≤ displacement start ∧ displacement start < Tape.size)
    (by simp only [List.mem_inits, KeepsToTape])

/-- The first command of a text that leaves the tape, between the parts before and after it. -/
structure FirstOff (text before : List Char) (c : Char) (after : List Char) : Prop where
  split : text = before ++ c :: after
  within : KeepsToTape before
  leaves : ¬ (0 ≤ displacement (before ++ [c]) ∧ displacement (before ++ [c]) < Tape.size)

theorem displacement_append (first rest : List Char) :
    displacement (first ++ rest) = displacement first + displacement rest := by
  simp only [displacement, List.count_append]
  omega

theorem displacement_cons (c : Char) (text : List Char) :
    displacement (c :: text) = displacement [c] + displacement text :=
  displacement_append [c] text

theorem executedAt_cons (symbol c : Char) (text : List Char) (place : Int) :
    executedAt symbol (c :: text) place =
      (if c = symbol ∧ place = 0 then 1 else 0) +
        executedAt symbol text (place - displacement [c]) := by
  have later (i : Nat) : displacement ((c :: text).take (i + 1)) = place ↔
      displacement (text.take i) = place - displacement [c] := by
    rw [List.take_succ_cons, displacement_cons]
    omega
  rw [executedAt, List.length_cons, List.range_succ_eq_map, List.countP_cons, List.countP_map,
    Nat.add_comm]
  congr 1
  · have here : displacement [] = 0 := rfl
    simp only [List.getElem?_cons_zero, List.take_zero, here, Option.some.injEq, decide_eq_true_eq,
      eq_comm (a := (0 : Int))]
  · refine List.countP_congr fun i _ => ?_
    simp only [Function.comp_apply, List.getElem?_cons_succ, later, decide_eq_true_eq]

/-! ## Texts and their operations -/

theorem travel_eq_displacement (text : List Char) :
    Opcode.travel (text.filterMap Opcode.ofSymbol?) = displacement text := travel_ops text

-- What the first character of a text does to the place where it stands.
theorem gain_ofSymbol? {c : Char} {op : Opcode} (means : Opcode.ofSymbol? c = some op) :
    op.movement = displacement [c] ∧
      op.gain = (if c = '+' then 1 else 0) - (if c = '-' then 1 else 0) := by
  unfold Opcode.ofSymbol? at means
  split at means <;> cases means <;> decide

theorem silent_ofSymbol? {c : Char} (silent : Opcode.ofSymbol? c = none) :
    displacement [c] = 0 ∧ c ≠ '+' ∧ c ≠ '-' := by
  unfold Opcode.ofSymbol? at silent
  split at silent <;> simp_all [displacement]

/-- A text changes each cell by the `+` less the `-` that it executes there. -/
theorem netChange_ops (text : List Char) (place : Int) :
    Opcode.netChange (text.filterMap Opcode.ofSymbol?) place =
      executedAt '+' text place - executedAt '-' text place := by
  induction text generalizing place with
  | nil => rfl
  | cons c text ih =>
    rw [executedAt_cons, executedAt_cons]
    cases means : Opcode.ofSymbol? c with
    | none =>
      obtain ⟨still, notPlus, notMinus⟩ := silent_ofSymbol? means
      rw [List.filterMap_cons_none means, ih, still, Int.sub_zero]
      simp [notPlus, notMinus]
    | some op =>
      obtain ⟨movement, gain⟩ := gain_ofSymbol? means
      rw [List.filterMap_cons_some means, Opcode.netChange, ih, movement, gain]
      by_cases here : place = 0
      · simp only [here, and_true, if_true]
        split <;> split <;> push_cast <;> omega
      · simp [here]

theorem stays_ops {text : List Char} :
    Opcode.Stays (text.filterMap Opcode.ofSymbol?) 0 ↔ KeepsToTape text := by
  constructor
  · intro stays start before
    have inside := stays _ (before.filterMap Opcode.ofSymbol?)
    rwa [travel_eq_displacement, Int.zero_add] at inside
  · rintro keeps start ⟨rest, split⟩
    obtain ⟨before, after, rfl, rfl, _⟩ := List.filterMap_eq_append_iff.mp split.symm
    rw [travel_eq_displacement, Int.zero_add]
    exact keeps before (List.prefix_append ..)

theorem firstOff_of_leavesAt {text : List Char} {ops : List Opcode} {op : Opcode}
    (off : Opcode.LeavesAt (text.filterMap Opcode.ofSymbol?) 0 ops op) :
    ∃ before c after, FirstOff text before c after ∧ Opcode.ofSymbol? c = some op ∧
      before.filterMap Opcode.ofSymbol? = ops := by
  obtain ⟨rest, split⟩ := off.within
  rw [List.append_assoc] at split
  obtain ⟨first, last, rfl, rfl, tail⟩ := List.filterMap_eq_append_iff.mp split.symm
  obtain ⟨silent, c, after, rfl, none, means, _⟩ := List.filterMap_eq_cons_iff.mp tail
  -- Commentary before the command belongs to what is taken.
  have same : (first ++ silent).filterMap Opcode.ofSymbol? = first.filterMap Opcode.ofSymbol? := by
    rw [List.filterMap_append, List.filterMap_eq_nil_iff.mpr none, List.append_nil]
  refine ⟨first ++ silent, c, after, ⟨(List.append_assoc ..).symm, ?_, ?_⟩, means, same⟩
  · rw [← stays_ops, same]
    exact off.stays
  · have leaves := off.leaves
    have whole : first.filterMap Opcode.ofSymbol? ++ [op] =
        (first ++ silent ++ [c]).filterMap Opcode.ofSymbol? := by
      rw [List.filterMap_append, same, List.filterMap_cons_some means, List.filterMap_nil]
    rwa [whole, travel_eq_displacement, Int.zero_add] at leaves

/-- The move that leaves the tape goes to the left from its first cell, or to the right from its
last. -/
theorem FirstOff.edge {text before after : List Char} {c : Char}
    (off : FirstOff text before c after) :
    c = '<' ∧ displacement before = 0 ∨ c = '>' ∧ displacement before = Tape.size - 1 := by
  obtain ⟨start, inside⟩ := off.within before List.prefix_rfl
  have leaves := off.leaves
  rw [displacement_append] at leaves
  by_cases right : c = '>'
  · have one : displacement [c] = 1 := by rw [right]; rfl
    exact .inr ⟨right, by omega⟩
  by_cases left : c = '<'
  · have one : displacement [c] = -1 := by rw [left]; rfl
    exact .inl ⟨left, by omega⟩
  · have still : displacement [c] = 0 := by simp [displacement, left, right]
    exact absurd ⟨by omega, by omega⟩ leaves

-- A longer prefix would keep to the tape together with the command.
theorem FirstOff.length_le {text before after other rest : List Char} {c d : Char}
    (off : FirstOff text before c after) (first : FirstOff text other d rest) :
    before.length ≤ other.length := by
  by_contra longer
  have start : other ++ [d] <+: text :=
    ⟨rest, by rw [first.split, List.append_assoc, List.singleton_append]⟩
  have within : before <+: text := ⟨c :: after, off.split.symm⟩
  refine first.leaves (off.within _ (List.prefix_of_prefix_length_le start within ?_))
  rw [List.length_append, List.length_singleton]
  omega

theorem FirstOff.unique {text before after other rest : List Char} {c d : Char}
    (off : FirstOff text before c after) (first : FirstOff text other d rest) :
    before = other ∧ c = d ∧ after = rest := by
  have same := off.split.symm.trans first.split
  have lengths := Nat.le_antisymm (off.length_le first) (first.length_le off)
  obtain ⟨befores, tails⟩ := List.append_inj same lengths
  exact ⟨befores, List.cons.inj tails⟩

theorem length_commands (text : List Char) :
    (commands text).length = (text.filterMap Opcode.ofSymbol?).length := by
  rw [commands, ← List.countP_eq_length_filter, List.length_filterMap_eq_countP]

theorem locate_of_split {text filename : String} {program : Program} {before after : List Char}
    {c : Char} {op : Opcode} (loaded : load text filename = .ok program)
    (split : text.toList = before ++ c :: after) (means : Opcode.ofSymbol? c = some op) :
    program.locate ↑(before.filterMap Opcode.ofSymbol?).length =
      some (locationAfter filename before c) := by
  obtain ⟨_, _, _, locations, _⟩ := exists_reads_of_load loaded
  have command : (Opcode.ofSymbol? c).isSome := by rw [means]; rfl
  rw [Program.locate, if_pos (Int.natCast_nonneg _), Int.toNat_natCast, locations,
    List.getElem?_toArray, split]
  exact Cursor.commandLocations_getElem? command

@[simp] theorem Tape.cell_blank (q : Nat) : Tape.blank.cell q = 0 := by
  rw [Tape.cell, Tape.blank, Array.getD_eq_getD_getElem?, Array.getElem?_replicate]
  split <;> rfl

/-! ## Runs -/

namespace Machine

variable {ρ ω : Type}

/-- The state of a run that has taken a text, with nothing read and nothing written. -/
structure Walked (text : List Char) (m state : Machine ρ ω) : Prop where
  counter : state.pc = some ↑(commands text).length
  pointer : state.pointer = displacement text
  cells : ∀ q : Nat, q < Tape.size → ((state.tape.cell q).toNat : Int) =
    ((executedAt '+' text q : Int) - executedAt '-' text q) % 256
  reader : state.reader = m.reader
  writer : state.writer = m.writer

structure WalkedOff (filename : String) (before : List Char) (c : Char) (m : Machine ρ ω)
    (error : RunError) (state : Machine ρ ω) : Prop where
  kind : error.kind = "PointerOutOfBounds"
  pc : error.pc = some ↑(commands before).length
  location : error.location = some (locationAfter filename before c)
  effects : Walked before m state
  edge : c = '<' ∧ state.pointer = 0 ∨ c = '>' ∧ state.pointer = Tape.size - 1
  steps : state.log.stepCount = (commands before).length + 1

structure Walks [Reader ρ] [Writer ω] (text : List Char) (filename : String) (m : Machine ρ ω) :
    Prop where
  ends : ∃ fuel, m.run fuel ≠ .exhausted
  stays : KeepsToTape text → ∀ fuel, m.run fuel ≠ .exhausted → ∃ state,
    m.run fuel = .done state ∧ Walked text m state ∧
      state.log.stepCount = (commands text).length
  strays : ¬ KeepsToTape text → ∀ fuel, m.run fuel ≠ .exhausted →
    ∃ before c after error state, FirstOff text before c after ∧
      m.run fuel = .stopped (.run error) state ∧ WalkedOff filename before c m error state

variable {program : Program} {m state : Machine ρ ω} {reader : ρ} {writer : ω} {s : Store ρ ω}

theorem Mirrors.walked {text : List Char} {ops : List Opcode} {steps index : Nat}
    (start : m.Mirrors program 0 (.start reader writer)) (finish : state.Mirrors program index s)
    (same : text.filterMap Opcode.ofSymbol? = ops) (place : index = ops.length)
    (changes : (Store.start reader writer).Changes s (Opcode.travel ops) (Opcode.netChange ops)
      steps) : Walked text m state where
  counter := by rw [finish.here.counter, place, ← same, length_commands]
  pointer := by
    have pointer := changes.pointer
    rw [← same, travel_eq_displacement] at pointer
    rw [finish.here.pointer, pointer]
    exact Int.zero_add _
  cells q inside := by
    rw [finish.tape, changes.cells q inside, ← same, netChange_ops]
    simp [Store.start]
  reader := by rw [finish.reader, changes.reader, start.reader]
  writer := by rw [finish.writer, changes.writer, start.writer]

section

variable [Reader ρ] [Writer ω] {verbose : Bool} {history : Option Int} {text filename : String}
  {block : Block} (loaded : load text filename = .ok program) (reads : block.Reads text.toList)
  (created : create program reader writer verbose {} history = .ok m)
  (straight : ∀ op ∈ block.ops, op.Straight)

include loaded reads created straight

theorem walks_within (stays : Opcode.Stays block.ops 0) :
    (∃ fuel, m.run fuel ≠ .exhausted) ∧ ∀ fuel, m.run fuel ≠ .exhausted → ∃ state,
      m.run fuel = .done state ∧ Walked text.toList m state ∧
        state.log.stepCount = (commands text.toList).length := by
  obtain ⟨next, taken, changes⟩ := Block.eval_stays (s := .start reader writer) straight 0 0 stays
  have ends : block.eval 0 0 (.start reader writer) ≠ .exhausted :=
    fun exhausted => nomatch taken.symm.trans exhausted
  have length : program.size = block.ops.length := by
    rw [size_of_reads loaded reads, ← block.map_op_code 0, List.length_map, Block.length_code]
  refine ⟨run_ends_of_eval loaded reads created ends, fun fuel enough => ?_⟩
  have same := sameEnd_of_ends loaded reads created enough ends
  rw [taken] at same
  generalize m.run fuel = outcome at same
  cases same with
  | @done state _ finish _ =>
    refine ⟨state, rfl, ?_, ?_⟩
    · exact (mirrors_of_create created).walked finish reads.ops_eq length changes
    · rw [finish.steps, changes.steps, length_commands, reads.ops_eq]
      exact Nat.zero_add _

theorem walks_off (strays : ¬ Opcode.Stays block.ops 0) :
    (∃ fuel, m.run fuel ≠ .exhausted) ∧ ∀ fuel, m.run fuel ≠ .exhausted →
      ∃ before c after error state, FirstOff text.toList before c after ∧
        m.run fuel = .stopped (.run error) state ∧ WalkedOff filename before c m error state := by
  obtain ⟨ops, op, reason, next, off, stopped, kind, changes⟩ :=
    Block.eval_strays (s := .start reader writer) straight 0 0 strays
  have ends : block.eval 0 0 (.start reader writer) ≠ .exhausted :=
    fun exhausted => nomatch stopped.symm.trans exhausted
  refine ⟨run_ends_of_eval loaded reads created ends, fun fuel enough => ?_⟩
  have same := sameEnd_of_ends loaded reads created enough ends
  rw [← reads.ops_eq] at off
  obtain ⟨before, c, after, first, means, taken⟩ := firstOff_of_leavesAt off
  have index : 0 + ops.length = (commands before).length := by
    rw [Nat.zero_add, length_commands, taken]
  rw [stopped] at same
  generalize m.run fuel = outcome at same
  cases same with
  | @stopped error state _ _ finish _ reasonSame _ pc location =>
    have walked : Walked before m state :=
      (mirrors_of_create created).walked finish taken (Nat.zero_add _) changes
    refine ⟨before, c, after, error, state, first, rfl, ⟨?_, ?_, ?_, walked, ?_, ?_⟩⟩
    · exact (congrArg Reason.kind reasonSame).trans kind
    · rw [pc, index]
    · rw [location, Nat.zero_add, ← taken]
      exact locate_of_split loaded first.split means
    · rw [walked.pointer]
      exact first.edge
    · rw [finish.steps, changes.steps, ← index]
      simp [Store.start]

end

/-- The run of a text that only moves the pointer and changes cells. It ends with the pointer at the
displacement of the text if every prefix keeps to the tape, and otherwise stops with the first command
that leaves it. -/
theorem run_walks {ρ ω : Type} [Reader ρ] [Writer ω] {text : String}
    (plain : StraightText text.toList) (filename : String) :
    ∃ program, load text filename = .ok program ∧
      ∀ (reader : ρ) (writer : ω) (verbose : Bool) (history : Option Int) (m : Machine ρ ω),
        create program reader writer verbose {} history = .ok m →
          Walks text.toList filename m := by
  obtain ⟨block, reads⟩ := Block.exists_reads plain.balanced
  have loaded := @load_of_reads text filename block reads
  have straight := plain.straight
  have keeps := @stays_ops text.toList
  rw [reads.ops_eq] at straight keeps
  refine ⟨_, loaded, fun reader writer verbose history m created => ?_⟩
  by_cases stays : Opcode.Stays block.ops 0
  · obtain ⟨ends, within⟩ := walks_within loaded reads created straight stays
    exact ⟨ends, fun _ => within, fun strays => absurd (keeps.mp stays) strays⟩
  · obtain ⟨ends, off⟩ := walks_off loaded reads created straight stays
    exact ⟨ends, fun within => absurd (keeps.mpr within) stays, fun _ => off⟩

/-- A walk to the right and back leaves the tape on the left, behind four commands. -/
theorem run_walks_back :
    ∃ (program : Program) (m : Machine ScriptReader BufferWriter),
      load ">+<- off <" "back" = .ok program ∧ create program {} {} true {} none = .ok m ∧
        ∃ fuel error state, m.run fuel = .stopped (.run error) state ∧ error.pc = some 4 ∧
          state.pointer = 0 ∧ state.tape.cell 0 = 255 ∧ state.tape.cell 1 = 1 := by
  have first : FirstOff ">+<- off <".toList ">+<- off ".toList '<' [] :=
    ⟨by decide, by decide, by decide⟩
  obtain ⟨program, loaded, walks⟩ :=
    @run_walks ScriptReader BufferWriter _ _ ">+<- off <" (by decide) "back"
  obtain ⟨m, created⟩ : ∃ m : Machine ScriptReader BufferWriter,
      create program {} {} true {} none = .ok m := ⟨_, rfl⟩
  have runs := walks {} {} true none m created
  obtain ⟨fuel, enough⟩ := runs.ends
  obtain ⟨before, c, after, error, state, off, stopped, walked⟩ := runs.strays (by decide) fuel enough
  obtain ⟨rfl, rfl, rfl⟩ := off.unique first
  have pointer := walked.effects.pointer
  have zero := walked.effects.cells 0 (by decide)
  have one := walked.effects.cells 1 (by decide)
  refine ⟨program, m, loaded, created, fuel, error, state, stopped, walked.pc, pointer, ?_, ?_⟩
  · exact UInt8.toNat_inj.mp (Int.ofNat_inj.mp zero)
  · exact UInt8.toNat_inj.mp (Int.ofNat_inj.mp one)

end Machine

end TapeLang
