import TapeLang.Proofs.Machine.Instruction

/-! Runs without hooks, turn by turn.

A bounded run is a number of turns of the loop. `Reaches` counts them, and a run that ends does so
after as many turns as it takes, whatever the bound. -/

set_option autoImplicit false

namespace TapeLang

def Outcome.Leaves {ε σ : Type} (P : σ → Prop) : Outcome ε σ → Prop
  | done s => P s
  | stopped _ s => P s
  | exhausted => True

theorem Outcome.Leaves.imp {ε σ : Type} {P Q : σ → Prop} {outcome : Outcome ε σ}
    (leaves : outcome.Leaves P) (implies : ∀ s, P s → Q s) : outcome.Leaves Q := by
  cases outcome with
  | done s => exact implies s leaves
  | stopped e s => exact implies s leaves
  | exhausted => trivial

theorem Outcome.Leaves.next {ε σ : Type} {P Q : σ → Prop} {outcome : Outcome ε σ}
    {rest : σ → Outcome ε σ} (first : outcome.Leaves P) (stops : ∀ s, P s → Q s)
    (goesOn : ∀ s, P s → (rest s).Leaves Q) : (outcome.next rest).Leaves Q := by
  cases outcome with
  | done s => exact goesOn s first
  | stopped e s => exact stops s first
  | exhausted => trivial

theorem Outcome.next_ends {ε σ : Type} {outcome : Outcome ε σ} {rest : σ → Outcome ε σ}
    (first : outcome ≠ .exhausted) (goesOn : ∀ s, outcome = .done s → rest s ≠ .exhausted) :
    outcome.next rest ≠ .exhausted := by
  cases outcome with
  | done s => exact goesOn s rfl
  | stopped e s => exact nofun
  | exhausted => exact absurd rfl first

namespace Program

variable {program : Program} {k : Nat} {inst : Instruction}

theorem fetch_size (program : Program) : program.fetch ↑program.size = .finished := by
  simp [fetch]

theorem fetch_of_found (found : program.code[k]? = some inst) :
    program.fetch ↑k = .instruction inst := by
  have inside : k < program.size := (Array.getElem?_eq_some_iff.mp found).1
  have notFinished : ¬ (program.size : Int) ≤ ↑k := by omega
  have here : program.get? ↑k = some inst := by simpa [get?] using found
  simp only [fetch, if_neg notFinished, here]

theorem found_of_lt (inside : k < program.size) : ∃ inst, program.code[k]? = some inst :=
  ⟨_, Array.getElem?_eq_getElem inside⟩

end Program

namespace Machine

variable {ρ ω : Type}

structure SameSetup (m other : Machine ρ ω) : Prop where
  program : other.program = m.program
  hooks : other.hooks = m.hooks
  verbose : other.verbose = m.verbose
  history : other.history = m.history

theorem SameSetup.refl (m : Machine ρ ω) : m.SameSetup m := ⟨rfl, rfl, rfl, rfl⟩

theorem SameSetup.trans {first second third : Machine ρ ω} (left : first.SameSetup second)
    (right : second.SameSetup third) : first.SameSetup third where
  program := right.program.trans left.program
  hooks := right.hooks.trans left.hooks
  verbose := right.verbose.trans left.verbose
  history := right.history.trans left.history

variable [Reader ρ] [Writer ω]

theorem perform_setup (inst : Instruction) (m : Machine ρ ω) :
    (m.perform inst).Leaves m.SameSetup := by
  obtain ⟨op, target⟩ := inst
  cases op with
  | increment | decrement =>
    simp only [perform, changeCell]
    split <;> exact ⟨rfl, rfl, rfl, rfl⟩
  | moveRight | moveLeft =>
    simp only [perform, move]
    split <;> exact ⟨rfl, rfl, rfl, rfl⟩
  | jumpIfZero | jumpIfNonZero =>
    simp only [perform, jumpIf]
    split
    · exact .refl m
    · split <;> exact ⟨rfl, rfl, rfl, rfl⟩
  | output =>
    simp only [perform, output, send_eq]
    split
    · exact .refl m
    · rcases Writer.write m.writer _ with ⟨_ | _, writer⟩ <;> exact ⟨rfl, rfl, rfl, rfl⟩
  | input =>
    simp only [perform, input]
    rcases Reader.read m.reader with ⟨_ | value, reader⟩ <;> dsimp only
    · exact ⟨rfl, rfl, rfl, rfl⟩
    · split
      · exact ⟨rfl, rfl, rfl, rfl⟩
      · split <;> exact ⟨rfl, rfl, rfl, rfl⟩
  | other name => exact .refl m

theorem step_setup (inst : Instruction) (m : Machine ρ ω) (fuel : Nat) :
    (m.step fuel .closed inst).Leaves m.SameSetup := by
  simp only [step, Gates.closed, Bool.false_eq_true, if_false, Outcome.next_done]
  split
  · exact .refl m
  · rename_i entry _
    have start : m.SameSetup (m.recordStep entry) := ⟨rfl, rfl, rfl, rfl⟩
    refine (perform_setup inst (m.recordStep entry)).next (fun _ same => start.trans same) ?_
    intro next same
    simp only [advance]
    split
    · exact (start.trans same).trans ⟨rfl, rfl, rfl, rfl⟩
    · exact start.trans same

/-- One turn of the loop of a run without hooks; nothing at the end of the program. -/
def turn? (m : Machine ρ ω) : Option (Outcome Fault (Machine ρ ω)) :=
  match m.pc with
  | none => some (.stopped (.failure .noCounter) m)
  | some pc =>
    match m.program.fetch pc with
    | .finished => none
    | .outside => some (.stopped (.failure (.instructionIndex pc)) m)
    | .instruction inst => some (m.step 0 .closed inst)

theorem At.turn_eq {m : Machine ρ ω} {pc : Int} {p : Nat} {inst : Instruction} (here : m.At pc p)
    (fetched : m.program.fetch pc = .instruction inst) :
    m.turn? = some (((m.logged inst).perform inst).next advance) := by
  rw [← here.step_closed 0]
  simp only [turn?, here.counter, fetched]

theorem turn?_setup {m : Machine ρ ω} {outcome : Outcome Fault (Machine ρ ω)}
    (turned : m.turn? = some outcome) : outcome.Leaves m.SameSetup := by
  unfold turn? at turned
  split at turned
  · cases turned
    exact .refl m
  · split at turned <;> cases turned
    · exact .refl m
    · exact step_setup _ m 0

/-- The loop is made of turns. -/
theorem execute_succ (fuel : Nat) (m : Machine ρ ω) :
    execute .closed (fuel + 1) m =
      match m.turn? with
      | none => .done m
      | some outcome => outcome.next (execute .closed fuel) := by
  simp only [execute, turn?]
  cases m.pc with
  | none => rfl
  | some pc =>
    dsimp only
    cases m.program.fetch pc with
    | finished => rfl
    | outside => rfl
    | instruction inst =>
      -- Without hooks a step has no use for the bound.
      have same : m.step fuel .closed inst = m.step 0 .closed inst := by simp [step, Gates.closed]
      dsimp only
      rw [same]
      cases m.step 0 .closed inst <;> rfl

/-- The state at the top of the loop after a number of turns. -/
inductive Reaches : Machine ρ ω → Nat → Machine ρ ω → Prop where
  | refl {m : Machine ρ ω} : Reaches m 0 m
  | turn {m next last : Machine ρ ω} {k : Nat} :
      m.turn? = some (.done next) → Reaches next k last → Reaches m (k + 1) last

variable {m last : Machine ρ ω} {k : Nat}

theorem Reaches.trans {other : Machine ρ ω} {n : Nat} (first : m.Reaches k last)
    (rest : last.Reaches n other) : m.Reaches (k + n) other := by
  induction first with
  | refl => rwa [Nat.zero_add]
  | turn turned _ ih =>
    rw [Nat.add_right_comm]
    exact .turn turned (ih rest)

theorem Reaches.between {i : Nat} {earlier : Machine ρ ω} (first : m.Reaches i earlier)
    (reaches : m.Reaches k last) (sooner : i ≤ k) : earlier.Reaches (k - i) last := by
  induction first generalizing k with
  | refl => exact reaches
  | turn turned _ ih =>
    cases reaches with
    | refl => cases sooner
    | turn again rest =>
      rw [turned] at again
      cases again
      rw [Nat.add_sub_add_right]
      exact ih rest (Nat.le_of_succ_le_succ sooner)

theorem Reaches.one {next : Machine ρ ω} (turned : m.turn? = some (.done next)) :
    m.Reaches 1 next := .turn turned .refl

-- Turns that have been taken only use up the bound.
theorem Reaches.execute (reaches : m.Reaches k last) (fuel : Nat) :
    execute .closed (k + fuel) m = execute .closed fuel last := by
  induction reaches with
  | refl => rw [Nat.zero_add]
  | turn turned _ ih =>
    rw [Nat.add_right_comm, execute_succ, turned]
    exact ih

theorem Reaches.execute_finished (reaches : m.Reaches k last) (finished : last.turn? = none)
    {fuel : Nat} (enough : k < fuel) : Machine.execute .closed fuel m = .done last := by
  obtain ⟨more, rfl⟩ := Nat.exists_eq_add_of_lt enough
  rw [Nat.add_assoc, reaches.execute, execute_succ, finished]

theorem Reaches.execute_stopped {fault : Fault} {state : Machine ρ ω} (reaches : m.Reaches k last)
    (stops : last.turn? = some (.stopped fault state)) {fuel : Nat} (enough : k < fuel) :
    Machine.execute .closed fuel m = .stopped fault state := by
  obtain ⟨more, rfl⟩ := Nat.exists_eq_add_of_lt enough
  rw [Nat.add_assoc, reaches.execute, execute_succ, stops]
  rfl

theorem Reaches.execute_short (reaches : m.Reaches k last) {fuel : Nat} (short : fuel ≤ k) :
    Machine.execute .closed fuel m = .exhausted := by
  induction reaches generalizing fuel with
  | refl =>
    rw [Nat.le_zero.mp short]
    rfl
  | turn turned _ ih =>
    cases fuel with
    | zero => rfl
    | succ fuel =>
      rw [execute_succ, turned]
      exact ih (Nat.le_of_succ_le_succ short)

theorem execute_turn {next : Machine ρ ω} {fuel : Nat} (turned : m.turn? = some (.done next))
    (ends : Machine.execute .closed fuel m ≠ .exhausted) :
    ∃ left, fuel = left + 1 ∧ Machine.execute .closed left next ≠ .exhausted := by
  cases fuel with
  | zero => exact absurd rfl ends
  | succ left =>
    rw [execute_succ, turned] at ends
    exact ⟨left, rfl, ends⟩

theorem Reaches.lt_of_ends (reaches : m.Reaches k last) {fuel : Nat}
    (ends : Machine.execute .closed fuel m ≠ .exhausted) : k < fuel := by
  apply Nat.lt_of_not_le
  intro short
  exact ends (reaches.execute_short short)

-- A loop that ends within a bound ends at a state that it reaches.
theorem reaches_of_execute {fuel : Nat} {m : Machine ρ ω}
    (ends : execute .closed fuel m ≠ .exhausted) :
    ∃ k last, k < fuel ∧ m.Reaches k last ∧
      (last.turn? = none ∨ ∃ fault state, last.turn? = some (.stopped fault state)) := by
  induction fuel generalizing m with
  | zero => exact absurd rfl ends
  | succ fuel ih =>
    rw [execute_succ] at ends
    cases turned : m.turn? with
    | none => exact ⟨0, m, Nat.zero_lt_succ _, .refl, .inl turned⟩
    | some outcome =>
      rw [turned] at ends
      cases outcome with
      | done next =>
        obtain ⟨k, last, within, reaches, final⟩ := ih ends
        exact ⟨k + 1, last, Nat.succ_lt_succ within, .turn turned reaches, final⟩
      | stopped fault state =>
        exact ⟨0, m, Nat.zero_lt_succ _, .refl, .inr ⟨fault, state, turned⟩⟩
      | exhausted => exact absurd rfl ends

theorem execute_unique {fuel other : Nat} (ends : execute .closed fuel m ≠ .exhausted)
    (enough : execute .closed other m ≠ .exhausted) :
    execute .closed fuel m = execute .closed other m := by
  obtain ⟨k, last, within, reaches, finished | ⟨fault, state, stops⟩⟩ := reaches_of_execute ends
  · rw [reaches.execute_finished finished within,
      reaches.execute_finished finished (reaches.lt_of_ends enough)]
  · rw [reaches.execute_stopped stops within,
      reaches.execute_stopped stops (reaches.lt_of_ends enough)]

theorem execute_eq_done {fuel : Nat} {state : Machine ρ ω}
    (ends : execute .closed fuel m = .done state) :
    ∃ k, k < fuel ∧ m.Reaches k state ∧ state.turn? = none := by
  obtain ⟨k, last, within, reaches, finished | ⟨fault, stopped, stops⟩⟩ :=
    reaches_of_execute (show execute .closed fuel m ≠ .exhausted by simp [ends])
  · rw [reaches.execute_finished finished within] at ends
    cases ends
    exact ⟨k, within, reaches, finished⟩
  · rw [reaches.execute_stopped stops within] at ends
    cases ends

theorem execute_eq_stopped {fuel : Nat} {fault : Fault} {state : Machine ρ ω}
    (ends : execute .closed fuel m = .stopped fault state) :
    ∃ k last, k < fuel ∧ m.Reaches k last ∧ last.turn? = some (.stopped fault state) := by
  obtain ⟨k, last, within, reaches, finished | ⟨other, stopped, stops⟩⟩ :=
    reaches_of_execute (show execute .closed fuel m ≠ .exhausted by simp [ends])
  · rw [reaches.execute_finished finished within] at ends
    cases ends
  · rw [reaches.execute_stopped stops within] at ends
    cases ends
    exact ⟨k, last, within, reaches, stops⟩

end Machine

end TapeLang
