import TapeLang.Proofs.Machine.Logged

/-! The states in which the steps of a run are taken.

What a run does with a channel is counted by the operations that it meets. Wherever a run without
hooks gets, its counter is there and its pointer is on the tape, whatever the targets of its jumps. -/

set_option autoImplicit false

namespace TapeLang

namespace Machine

variable {ρ ω : Type} {m : Machine ρ ω} {pc : Int} {p : Nat} {inst : Instruction} {op : Opcode}

def op? (m : Machine ρ ω) : Option Opcode :=
  match m.pc.map m.program.fetch with
  | some (.instruction inst) => some inst.op
  | _ => none

theorem At.op?_eq_some (here : m.At pc p) :
    m.op? = some op ↔ ∃ inst, m.program.fetch pc = .instruction inst ∧ inst.op = op := by
  simp only [op?, here.counter, Option.map_some]
  cases m.program.fetch pc <;> simp

variable [Reader ρ] [Writer ω]

/-- The states at the top of the loop for a number of turns, or for as many as there are. -/
def visits : Nat → Machine ρ ω → List (Machine ρ ω)
  | 0, _ => []
  | turns + 1, m =>
    m :: match m.turn? with
      | some (.done next) => visits turns next
      | _ => []

def times (op : Opcode) (turns : Nat) (m : Machine ρ ω) : Nat :=
  (m.visits turns).countP fun state => state.op? = some op

/-- The current cells where a number of turns meets an operation, in their order. -/
def cellsAt (op : Opcode) (turns : Nat) (m : Machine ρ ω) : List UInt8 :=
  (m.visits turns).filterMap fun state => if state.op? = some op then state.cell? else none

variable {k : Nat} {last : Machine ρ ω}

theorem visits_succ {next : Machine ρ ω} (turned : m.turn? = some (.done next)) (turns : Nat) :
    m.visits (turns + 1) = m :: next.visits turns := by
  simp only [visits, turned]

-- A run goes on after a state, or the state is the last of it.
theorem visits_cases (turns : Nat) (m : Machine ρ ω) :
    (∃ next, m.turn? = some (.done next) ∧ m.visits (turns + 1) = m :: next.visits turns) ∨
      (∀ next, m.turn? ≠ some (.done next)) ∧ m.visits (turns + 1) = [m] := by
  rw [visits]
  split
  · exact .inl ⟨_, ‹_›, rfl⟩
  · exact .inr ⟨fun next turned => absurd turned (by simp_all), rfl⟩

theorem prefix_visits {turns more : Nat} (fewer : turns ≤ more) :
    m.visits turns <+: m.visits more := by
  induction turns generalizing m more with
  | zero => exact List.nil_prefix
  | succ turns ih =>
    obtain ⟨more, rfl⟩ : ∃ k, more = k + 1 := ⟨more - 1, by omega⟩
    rw [visits, visits]
    refine (List.prefix_cons_inj _).mpr ?_
    split
    · exact ih (Nat.le_of_succ_le_succ fewer)
    · exact List.nil_prefix

theorem times_mono {turns more : Nat} (fewer : turns ≤ more) :
    m.times op turns ≤ m.times op more :=
  (prefix_visits fewer).sublist.countP_le

theorem prefix_cellsAt {turns more : Nat} (fewer : turns ≤ more) :
    m.cellsAt op turns <+: m.cellsAt op more :=
  (prefix_visits fewer).filterMap _

theorem transfers_eq_filterMap (turns : Nat) (m : Machine ρ ω) :
    m.transfers turns = (m.visits turns).filterMap Machine.transfer? := by
  induction turns generalizing m with
  | zero => rfl
  | succ turns ih =>
    have first (rest : List (Machine ρ ω)) : (m :: rest).filterMap Machine.transfer? =
        m.transfer?.toList ++ rest.filterMap Machine.transfer? := by
      rw [List.filterMap_cons]
      cases m.transfer? <;> rfl
    rcases m.visits_cases turns with ⟨next, turned, visited⟩ | ⟨ends, visited⟩
    · rw [visited, first, transfers_succ turned, ih]
    · rw [visited, first, transfers]
      split
      · exact absurd ‹_› (ends _)
      · rfl

theorem reaches_of_visit {turns : Nat} (visited : last ∈ m.visits turns) :
    ∃ i < turns, m.Reaches i last := by
  induction turns generalizing m with
  | zero => cases visited
  | succ turns ih =>
    rcases m.visits_cases turns with ⟨next, turned, same⟩ | ⟨_, same⟩
    · rw [same, List.mem_cons] at visited
      rcases visited with rfl | visited
      · exact ⟨0, Nat.zero_lt_succ _, .refl⟩
      · obtain ⟨i, within, reaches⟩ := ih visited
        exact ⟨i + 1, Nat.succ_lt_succ within, .turn turned reaches⟩
    · rw [same, List.mem_singleton] at visited
      exact ⟨0, Nat.zero_lt_succ _, visited ▸ .refl⟩

/-- If states of a kind are met more than `k` times, one of them is met after `k` others. -/
theorem exists_visit {kind : Machine ρ ω → Bool} {turns : Nat} {m : Machine ρ ω}
    (more : k < (m.visits turns).countP kind) :
    ∃ i < turns, ∃ state, m.Reaches i state ∧ (m.visits i).countP kind = k ∧ kind state := by
  induction turns generalizing m k with
  | zero => cases more
  | succ turns ih =>
    by_cases now : kind m ∧ k = 0
    · exact ⟨0, Nat.zero_lt_succ _, m, .refl, now.2.symm, now.1⟩
    · rcases m.visits_cases turns with ⟨next, turned, visited⟩ | ⟨_, visited⟩
      · -- What is left is met by the turns after this one.
        rw [visited, List.countP_cons] at more
        have left : (k - if kind m then 1 else 0) < (next.visits turns).countP kind := by
          by_cases met : kind m <;> simp [met] at more now ⊢ <;> omega
        obtain ⟨i, within, state, reaches, count, found⟩ := ih left
        refine ⟨i + 1, Nat.succ_lt_succ within, state, .turn turned reaches, ?_, found⟩
        rw [visits_succ turned, List.countP_cons, count]
        by_cases met : kind m <;> simp [met] at now ⊢
        omega
      · rw [visited, List.countP_singleton] at more
        split at more
        · exact absurd ⟨‹_›, Nat.lt_one_iff.mp more⟩ now
        · cases more

/-! ## Where a run gets -/

-- Only a jump without a target loses the counter, and that stops the run.
theorem At.turn_at (here : m.At pc p) {next : Machine ρ ω} (turned : m.turn? = some (.done next)) :
    ∃ pc p, next.At pc p := by
  cases fetched : m.program.fetch pc with
  | finished | outside => simp [turn?, here.counter, fetched] at turned
  | instruction inst =>
    rw [here.turn_eq fetched, Option.some.injEq] at turned
    have effect := perform_effect inst (m.logged inst)
    cases performed : (m.logged inst).perform inst with
    | done after =>
      rw [performed] at effect turned
      obtain ⟨_, pointer, counter, _, _, rfl, moved, _⟩ := effect
      cases counter with
      | none => cases turned
      | some counter =>
        cases turned
        rcases moved with rfl | ⟨start, inside⟩
        · exact ⟨_, p, rfl, (here.logged inst).pointer, here.inside⟩
        · exact ⟨_, pointer.toNat, rfl, (Int.toNat_of_nonneg start).symm, by omega⟩
    | stopped | exhausted =>
      rw [performed] at turned
      cases turned

theorem At.located (here : m.At pc p) (reaches : m.Reaches k last) : ∃ pc p, last.At pc p := by
  induction reaches generalizing pc p with
  | refl => exact ⟨pc, p, here⟩
  | turn turned _ ih =>
    obtain ⟨pc, p, next⟩ := here.turn_at turned
    exact ih next

theorem At.at_of_visit (here : m.At pc p) {turns : Nat} (visited : last ∈ m.visits turns) :
    ∃ pc p, last.At pc p := by
  obtain ⟨_, _, reaches⟩ := reaches_of_visit visited
  exact here.located reaches

theorem At.length_cellsAt (here : m.At pc p) (turns : Nat) :
    (m.cellsAt op turns).length = m.times op turns := by
  rw [times, cellsAt, List.length_filterMap_eq_countP]
  refine List.countP_congr fun state visited => ?_
  obtain ⟨pc, p, there⟩ := here.at_of_visit visited
  by_cases meets : state.op? = some op <;> simp [meets, there.cell?]

end Machine

end TapeLang
