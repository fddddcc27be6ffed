import TapeLang.Proofs.Structured.Turns

/-! Flat runs agree with structured evaluations.

Where a program holds the code of a block, its loop follows the evaluation of the block. Each round
of a loop takes at least one turn, so a loop of the machine that ends leaves no loop of the
evaluation without an end. -/

set_option autoImplicit false

namespace TapeLang

def Program.Holds (program : Program) (index : Nat) (code : List Instruction) : Prop :=
  ∀ (k : Nat) (inst : Instruction), code[k]? = some inst → program.code[index + k]? = some inst

namespace Program

variable {program : Program} {index : Nat} {code more : List Instruction} {inst : Instruction}

theorem Holds.head (holds : program.Holds index (inst :: code)) :
    program.code[index]? = some inst := holds 0 inst rfl

theorem Holds.append_left (holds : program.Holds index (code ++ more)) :
    program.Holds index code := by
  intro k inst found
  have inside : k < code.length := (List.getElem?_eq_some_iff.mp found).1
  exact holds k inst (by rw [List.getElem?_append_left inside, found])

theorem Holds.append_right (holds : program.Holds index (code ++ more)) :
    program.Holds (index + code.length) more := by
  intro k inst found
  rw [Nat.add_assoc]
  exact holds _ inst (by
    rw [List.getElem?_append_right (Nat.le_add_right ..), Nat.add_sub_cancel_left, found])

theorem Holds.tail (holds : program.Holds index (inst :: code)) :
    program.Holds (index + 1) code :=
  @Holds.append_right program index [inst] code holds

theorem holds_of_code (same : program.code = code.toArray) : program.Holds 0 code := by
  intro k inst found
  rw [Nat.zero_add, same, List.getElem?_toArray, found]

-- The parts of a loop's code.
theorem Holds.loop {body rest : Block} (holds : program.Holds index ((body.loop rest).code index)) :
    program.code[index]? = some ⟨.jumpIfZero, some ↑(index + body.size + 1)⟩ ∧
    program.Holds (index + 1) (body.code (index + 1)) ∧
    program.code[index + body.size + 1]? = some ⟨.jumpIfNonZero, some ↑index⟩ ∧
    program.Holds (index + body.size + 2) (rest.code (index + body.size + 2)) := by
  have after := holds.append_right
  have place : index + (body.code (index + 1)).length + 1 = index + body.size + 1 := by
    rw [Block.length_code]
  rw [List.length_cons, ← Nat.add_assoc, place] at after
  exact ⟨holds.append_left.head, holds.append_left.tail, after.head, after.tail⟩

end Program

namespace Machine

variable {ρ ω : Type} [Reader ρ] [Writer ω]

/-- How the loop of a machine goes on as an evaluation that begins with `s` does. -/
inductive Follows (program : Program) (last : Nat) (s : Store ρ ω) (m : Machine ρ ω) :
    Outcome CommandFault (Store ρ ω) → Prop where
  | done {k : Nat} {next : Machine ρ ω} {after : Store ρ ω} :
      m.Reaches k next → next.Mirrors program last after →
      after.transfers = s.transfers ++ m.transfers k → Follows program last s m (.done after)
  | stopped {k : Nat} {next state : Machine ρ ω} {reason : Reason} {command : Nat}
      {after : Store ρ ω} :
      m.Reaches k next →
      next.turn? = some (.stopped (.ofError (state.errorHere reason)) state) →
      state.Mirrors program command after →
      after.transfers = s.transfers ++ m.transfers (k + 1) →
      Follows program last s m (.stopped ⟨reason.told, command⟩ after)
  | exhausted : Follows program last s m .exhausted

variable {program : Program} {index last : Nat} {s : Store ρ ω} {m : Machine ρ ω}
  {outcome : Outcome CommandFault (Store ρ ω)}

theorem Follows.stay (mirrors : m.Mirrors program last s) :
    Follows program last s m (.done s) :=
  .done .refl mirrors (List.append_nil _).symm

theorem Follows.after_turns {k : Nat} {next : Machine ρ ω} {middle : Store ρ ω}
    (reaches : m.Reaches k next) (kept : middle.transfers = s.transfers ++ m.transfers k)
    (follows : Follows program last middle next outcome) : Follows program last s m outcome := by
  cases follows with
  | done rest mirrors same =>
    refine .done (reaches.trans rest) mirrors ?_
    rw [same, kept, reaches.transfers_add, List.append_assoc]
  | stopped rest stops mirrors same =>
    refine .stopped (reaches.trans rest) stops mirrors ?_
    rw [same, kept, Nat.add_assoc, reaches.transfers_add, List.append_assoc]
  | exhausted => exact .exhausted

theorem Follows.after_turn {next : Machine ρ ω} {middle : Store ρ ω}
    (turned : m.turn? = some (.done next))
    (kept : middle.transfers = s.transfers ++ m.transfer?.toList)
    (follows : Follows program last middle next outcome) : Follows program last s m outcome := by
  refine after_turns (.one turned) ?_ follows
  rw [transfers_succ turned, kept, transfers, List.append_nil]

theorem Follows.next {middle : Nat} {rest : Store ρ ω → Outcome CommandFault (Store ρ ω)}
    (first : Follows program middle s m outcome)
    (goesOn : ∀ after next, outcome = .done after → next.Mirrors program middle after →
      Follows program last after next (rest after)) :
    Follows program last s m (outcome.next rest) := by
  cases first with
  | done reaches mirrors kept => exact after_turns reaches kept (goesOn _ _ rfl mirrors)
  | stopped reaches stops mirrors kept => exact .stopped reaches stops mirrors kept
  | exhausted => exact .exhausted

theorem Mirrors.follows_command {c : Command} (mirrors : m.Mirrors program index s)
    (found : program.code[index]? = some ⟨c.op, none⟩) :
    Follows program (index + 1) s m (c.eval index s) := by
  obtain ⟨outcome, turned, agrees, kept⟩ := mirrors.command found
  generalize c.eval index s = result at agrees kept ⊢
  cases agrees with
  | done reached => exact .after_turn turned kept (.stay reached)
  | stopped reached =>
    exact .stopped .refl turned reached (by rw [transfers_stopped turned]; exact kept)

-- From the body's first command to past the closing bracket, if the body's evaluation is followed.
theorem Mirrors.follows_untilZero {closing : Nat}
    {body : Store ρ ω → Outcome CommandFault (Store ρ ω)}
    (found : program.code[closing]? = some ⟨.jumpIfNonZero, some ↑index⟩)
    (follows : ∀ s m, m.Mirrors program (index + 1) s → Follows program closing s m (body s))
    (rounds : Nat) (mirrors : m.Mirrors program (index + 1) s) :
    Follows program (closing + 1) s m (Block.untilZero body rounds s) := by
  induction rounds generalizing s m with
  | zero => exact .exhausted
  | succ rounds ih =>
    refine (follows s m mirrors).next fun after next _ reached => ?_
    obtain ⟨silent, later, turned, tested⟩ := reached.closing found
    have kept : after.tick.transfers = after.transfers ++ next.transfer?.toList := by simp [silent]
    refine .after_turn turned kept ?_
    by_cases zero : after.cell = 0
    · rw [if_pos zero] at tested ⊢
      exact .stay tested
    -- A jump back goes on after the opening bracket, where the next round begins.
    · rw [if_neg zero] at tested ⊢
      exact ih tested

theorem Mirrors.follows_loop {closing : Nat}
    {body : Store ρ ω → Outcome CommandFault (Store ρ ω)}
    (opens : program.code[index]? = some ⟨.jumpIfZero, some ↑closing⟩)
    (closes : program.code[closing]? = some ⟨.jumpIfNonZero, some ↑index⟩)
    (follows : ∀ s m, m.Mirrors program (index + 1) s → Follows program closing s m (body s))
    (rounds : Nat) (mirrors : m.Mirrors program index s) :
    Follows program (closing + 1) s m
      (if s.cell = 0 then .done s.tick else Block.untilZero body rounds s.tick) := by
  obtain ⟨silent, entered, turned, tested⟩ := mirrors.opening opens
  have kept : s.tick.transfers = s.transfers ++ m.transfer?.toList := by simp [silent]
  refine .after_turn turned kept ?_
  by_cases zero : s.cell = 0
  · rw [if_pos zero] at tested ⊢
    exact .stay tested
  · rw [if_neg zero] at tested ⊢
    exact tested.follows_untilZero closes follows rounds

/-- Where a block's code stands, the loop follows the evaluation of the block. -/
theorem Mirrors.follows_eval {block : Block} (holds : program.Holds index (block.code index))
    (fuel : Nat) (mirrors : m.Mirrors program index s) :
    Follows program (index + block.size) s m (block.eval fuel index s) := by
  induction block generalizing index s m with
  | done => exact .stay mirrors
  | command c rest ih =>
    have beyond : index + (Block.command c rest).size = index + 1 + rest.size := by
      simp only [Block.size]
      omega
    rw [beyond]
    exact (mirrors.follows_command holds.head).next fun _ _ _ reached => ih holds.tail reached
  | loop body rest bodyIH restIH =>
    obtain ⟨opens, inside, closes, after⟩ := holds.loop
    have beyond : index + (Block.loop body rest).size = index + body.size + 2 + rest.size := by
      simp only [Block.size]
      omega
    have within (s : Store ρ ω) (m : Machine ρ ω) (first : m.Mirrors program (index + 1) s) :
        Follows program (index + body.size + 1) s m (body.eval fuel (index + 1) s) := by
      rw [Nat.add_right_comm]
      exact bodyIH inside first
    rw [beyond]
    exact (mirrors.follows_loop opens closes within fuel).next fun _ _ _ reached =>
      restIH after reached

/-! ## Ends -/

theorem Follows.goes_on {after : Store ρ ω} (follows : Follows program last s m (.done after))
    {n : Nat} (ends : execute .closed n m ≠ .exhausted) :
    ∃ next left, next.Mirrors program last after ∧ left ≤ n ∧
      execute .closed left next ≠ .exhausted := by
  cases follows with
  | done reaches mirrors _ =>
    obtain ⟨left, rfl⟩ := Nat.exists_eq_add_of_le (reaches.lt_of_ends ends).le
    rw [reaches.execute] at ends
    exact ⟨_, left, mirrors, Nat.le_add_left .., ends⟩

theorem Mirrors.ends_command {c : Command} (mirrors : m.Mirrors program index s)
    (found : program.code[index]? = some ⟨c.op, none⟩) : c.eval index s ≠ .exhausted := by
  obtain ⟨outcome, _, agrees, _⟩ := mirrors.command found
  rintro same
  rw [same] at agrees
  cases agrees

-- A loop of the machine that ends leaves its evaluation enough rounds.
theorem Mirrors.ends_untilZero {closing fuel : Nat}
    {body : Store ρ ω → Outcome CommandFault (Store ρ ω)}
    (found : program.code[closing]? = some ⟨.jumpIfNonZero, some ↑index⟩)
    (follows : ∀ s m, m.Mirrors program (index + 1) s → Follows program closing s m (body s))
    (inside : ∀ n s m, n ≤ fuel → m.Mirrors program (index + 1) s →
      execute .closed n m ≠ .exhausted → body s ≠ .exhausted)
    {n rounds : Nat} (enough : n ≤ rounds) (bounded : n ≤ fuel)
    (mirrors : m.Mirrors program (index + 1) s) (ends : execute .closed n m ≠ .exhausted) :
    Block.untilZero body rounds s ≠ .exhausted := by
  induction rounds generalizing n s m with
  | zero =>
    rw [Nat.le_zero.mp enough] at ends
    exact absurd rfl ends
  | succ rounds ih =>
    refine Outcome.next_ends (inside n s m bounded mirrors ends) fun after same => ?_
    have first := follows s m mirrors
    rw [same] at first
    obtain ⟨next, left, reached, fewer, more⟩ := first.goes_on ends
    -- The turn at the closing bracket is what makes the bound smaller from round to round.
    obtain ⟨_, later, turned, tested⟩ := reached.closing found
    obtain ⟨left, rfl, goesOn⟩ := execute_turn turned more
    by_cases zero : after.cell = 0
    · rw [if_pos zero]
      exact nofun
    · rw [if_neg zero] at tested ⊢
      have fits : left ≤ rounds := by omega
      have within : left ≤ fuel := by omega
      exact ih fits within tested goesOn

/-- If the loop of the machine ends, the evaluation does within as many rounds. -/
theorem Mirrors.ends_eval {block : Block} (holds : program.Holds index (block.code index))
    {n fuel : Nat} (enough : n ≤ fuel) (mirrors : m.Mirrors program index s)
    (ends : execute .closed n m ≠ .exhausted) : block.eval fuel index s ≠ .exhausted := by
  induction block generalizing index s m n with
  | done => exact nofun
  | command c rest ih =>
    refine Outcome.next_ends (mirrors.ends_command holds.head) fun after same => ?_
    have first := mirrors.follows_command holds.head
    rw [same] at first
    obtain ⟨next, left, reached, fewer, more⟩ := first.goes_on ends
    exact ih holds.tail (fewer.trans enough) reached more
  | loop body rest bodyIH restIH =>
    obtain ⟨opens, inside, closes, beyond⟩ := holds.loop
    have within (s : Store ρ ω) (m : Machine ρ ω) (first : m.Mirrors program (index + 1) s) :
        Follows program (index + body.size + 1) s m (body.eval fuel (index + 1) s) := by
      rw [Nat.add_right_comm]
      exact first.follows_eval inside fuel
    refine Outcome.next_ends ?_ fun after same => ?_
    · obtain ⟨_, entered, turned, tested⟩ := mirrors.opening opens
      obtain ⟨left, rfl, more⟩ := execute_turn turned ends
      by_cases zero : s.cell = 0
      · rw [if_pos zero]
        exact nofun
      · rw [if_neg zero] at tested ⊢
        exact tested.ends_untilZero closes within (fun n s m => bodyIH inside) (by omega)
          (by omega) more
    · have looped := mirrors.follows_loop opens closes within fuel
      rw [same] at looped
      obtain ⟨next, left, reached, fewer, more⟩ := looped.goes_on ends
      exact restIH beyond (fewer.trans enough) reached more

end Machine

end TapeLang
