import TapeLang.Proofs.Machine.Range
import TapeLang.Proofs.Structured.Agreement

/-! Runs of a loaded program against the evaluation of its text. -/

set_option autoImplicit false

namespace TapeLang

namespace Machine

variable {ρ ω : Type}

/-- A run and an evaluation that end alike: in the same state, after the same transfers and as many
steps, either both normally or both by the same error at the same command, which is internal if a
channel has failed without words. -/
inductive SameEnd (program : Program) (transfers : List Transfer) :
    Outcome Fault (Machine ρ ω) → Outcome CommandFault (Store ρ ω) → Prop where
  | done {m : Machine ρ ω} {s : Store ρ ω} :
      m.Mirrors program program.size s → s.transfers = transfers →
      SameEnd program transfers (.done m) (.done s)
  | stopped {error : RunError} {m : Machine ρ ω} {fault : CommandFault} {s : Store ρ ω} :
      m.Mirrors program fault.command s → s.transfers = transfers →
      error.reason = fault.reason →
      (error.IsOrdinary ∨ ∃ why, error.reason = .internal (.unwritable why)) →
      error.pc = some ↑fault.command → error.location = program.locate ↑fault.command →
      SameEnd program transfers (.stopped (.run error) m) (.stopped fault s)

variable [Reader ρ] [Writer ω] {program : Program} {m : Machine ρ ω}

theorem Follows.run_ends {s : Store ρ ω} {outcome : Outcome CommandFault (Store ρ ω)}
    (fresh : m.Fresh) (follows : Follows program program.size s m outcome)
    (ends : outcome ≠ .exhausted) : ∃ fuel, m.run fuel ≠ .exhausted := by
  cases follows with
  | @done k next after reaches mirrors _ =>
    refine ⟨k + 1, ?_⟩
    rw [fresh.run_eq, reaches.execute_finished mirrors.turn?_end (Nat.lt_succ_self k)]
    exact nofun
  | @stopped k next state reason command after reaches stops _ _ =>
    refine ⟨k + 1, ?_⟩
    rw [fresh.run_eq, reaches.execute_stopped stops (Nat.lt_succ_self k)]
    exact nofun
  | exhausted => exact absurd rfl ends

theorem Follows.same_end {s : Store ρ ω} {outcome : Outcome CommandFault (Store ρ ω)}
    (fresh : m.Fresh) (linked : program.Linked) (within : m.InRange program)
    (silent : s.transfers = []) (follows : Follows program program.size s m outcome)
    (ends : outcome ≠ .exhausted) {fuel : Nat} (enough : m.run fuel ≠ .exhausted) :
    SameEnd program (m.transfers fuel) (m.run fuel) outcome := by
  have loops := fresh.run_ends.mp enough
  cases follows with
  | @done k next after reaches mirrors same =>
    have bound := reaches.lt_of_ends loops
    obtain ⟨more, rfl⟩ := Nat.exists_eq_add_of_lt bound
    rw [fresh.run_eq, reaches.execute_finished mirrors.turn?_end bound]
    refine .done mirrors ?_
    rw [Nat.add_assoc, reaches.transfers_add, transfers_finished mirrors.turn?_end, same, silent]
    simp
  | @stopped k next state reason command after reaches stops mirrors same =>
    have bound := reaches.lt_of_ends loops
    obtain ⟨more, rfl⟩ := Nat.exists_eq_add_of_lt bound
    obtain ⟨_, p, inst, here, _, first, reader, writer, refused, fails, left⟩ :=
      (within.reaches linked reaches).refused_of_stopped linked stops
    have told := report_ofError mirrors.here.counter reason
    -- The instruction may have failed for another reason, but that one is told in the same way.
    have others : state.report (.ofError (state.errorHere reason)) = _ :=
      fails ▸ left ▸ here.report_refused inst first reader writer
    have reasons : reason.told = first.told :=
      congrArg RunError.reason (Fault.run.inj (told.symm.trans others))
    have kinds : (reason.told.kind = "PointerOutOfBounds" ∨ reason.told.kind = "IOFailure") ∨
        ∃ why, reason.told = .internal (.unwritable why) := by
      rcases refused.told_cases with ⟨_, same⟩ | ⟨why, _, same⟩ <;> rw [reasons, same]
      · exact .inl refused.ordinary
      · exact .inr ⟨why, rfl⟩
    rw [fresh.run_eq, reaches.execute_stopped stops bound, settle, told]
    refine .stopped mirrors ?_ rfl kinds mirrors.here.counter ?_
    · rw [Nat.add_assoc, reaches.transfers_add, transfers_stopped stops, same, silent,
        reaches.transfers_add, transfers_stopped stops]
      rfl
    · exact mirrors.location
  | exhausted => exact absurd rfl ends

end Machine

end TapeLang
