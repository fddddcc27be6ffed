import TapeLang.Machine.Session
import TapeLang.Proofs.Machine.Diagnostics
import TapeLang.Proofs.Machine.Recast

/-! Runs of a machine that has been used before.

A run starts over, and what hooks have written by then is only added to. So a machine that has served
any requests runs as a new one does that is given the same program, settings, hooks and channels. -/

set_option autoImplicit false

namespace TapeLang

namespace Machine

variable {ρ ω : Type}

/-- A machine with what the hooks of a past one have written put before what its own have. -/
def before (past m : Machine ρ ω) : Machine ρ ω :=
  { m with
    journal := past.journal ++ m.journal
    diagnostics := past.diagnostics ++ m.diagnostics }

section
variable [Reader ρ] [Writer ω]

def Recast.behind (past : Machine ρ ω) : Recast ρ ω ρ ω where
  reader := id
  writer := id
  journal := past.journal
  diagnostics := past.diagnostics
  reads := reads_id
  writes := writes_id

/-- A run goes on writing where the hooks of a past one have stopped, and does not depend on it. -/
theorem run_before (past m : Machine ρ ω) (fuel : Nat) :
    (past.before m).run fuel = (m.run fuel).map past.before :=
  (Recast.behind past).run_apply m fuel

end

/-- Starting over leaves a machine as a new one is, but for what its hooks have written. -/
theorem reset_eq_create (m : Machine ρ ω) :
    m.reset = (create m.program m.reader m.writer m.verbose m.hooks m.history).map m.before := by
  simp only [create, reset]
  cases StepLog.capacity m.history with
  | error failure => rfl
  | ok capacity => simp [Except.map, before, rewind]

end Machine

namespace Session

variable {ρ ω : Type}

/-- What a session is left with by a run of a machine that was made for it. -/
def resume (past next : Session ρ ω) : Session ρ ω :=
  ⟨past.machine.before next.machine, past.aside, next.error <|> past.error⟩

variable [Reader ρ] [Writer ω]

def serve : List (Request ρ × Nat) → Session ρ ω → Option (List (Except Fault Answer) × Session ρ ω)
  | [], session => some ([], session)
  | (request, fuel) :: rest, session =>
    match session.handle fuel request with
    | some (answer, session) =>
      (serve rest session).map fun (answers, session) => (answer :: answers, session)
    | none => none

theorem serve_append {first last : Session ρ ω} {requests : List (Request ρ × Nat)}
    {answers : List (Except Fault Answer)} (served : first.serve requests = some (answers, last))
    (more : List (Request ρ × Nat)) :
    first.serve (requests ++ more) =
      (last.serve more).map fun (others, session) => (answers ++ others, session) := by
  induction requests generalizing first answers with
  | nil =>
    cases served
    simp
  | cons request rest ih =>
    obtain ⟨request, fuel⟩ := request
    rw [List.cons_append, serve]
    rw [serve] at served
    cases answered : first.handle fuel request with
    | none => simp [answered] at served
    | some handled =>
      obtain ⟨answer, next⟩ := handled
      simp only [answered, Option.map_eq_some_iff, Prod.mk.injEq, Prod.exists] at served ⊢
      obtain ⟨others, _, served, rfl, rfl⟩ := served
      rw [ih served, Option.map_map]
      rfl

/-- Nothing carries over: after any requests, a run answers as that of a new machine does which has the
same program, settings and hooks, and the reader and the writer as they are by then. It leaves what
that run leaves, and hooks go on writing after what they have written before. -/
theorem run_afresh {first last : Session ρ ω} {requests : List (Request ρ × Nat)}
    {answers : List (Except Fault Answer)} (served : first.serve requests = some (answers, last))
    (fits : ∀ n, last.machine.history = some n → 0 ≤ n ∧ n < Failure.wordBound) :
    ∃ fresh, Machine.create last.machine.program last.machine.reader last.machine.writer
        last.machine.verbose last.machine.hooks last.machine.history = .ok fresh ∧
      ∀ fuel, first.serve (requests ++ [(.run, fuel)]) =
        (Session.run fuel ⟨fresh, none, none⟩).map fun (answer, next) =>
          (answers ++ [answer], last.resume next) := by
  obtain ⟨machine, aside, error⟩ := last
  have valid := StepLog.capacity_eq_ok.mpr ⟨rfl, fits⟩
  obtain ⟨fresh, created⟩ : ∃ fresh, Machine.create machine.program machine.reader machine.writer
      machine.verbose machine.hooks machine.history = .ok fresh := by
    simp only [Machine.create, Machine.reset, valid]
    exact ⟨_, rfl⟩
  refine ⟨fresh, created, fun fuel => ?_⟩
  have ready : machine.reset = .ok (machine.before fresh) := by
    rw [machine.reset_eq_create, created]
    rfl
  rw [serve_append served]
  simp only [serve, handle, Session.run, Machine.run_of_reset ready, Machine.run_before]
  cases fresh.run fuel with
  | done m => rfl
  | stopped fault m => cases fault <;> rfl
  | exhausted => rfl

def stuck : Session ScriptReader BufferWriter where
  machine :=
    { program := { code := #[⟨.increment, none⟩, ⟨.moveLeft, none⟩] }
      reader := {}
      writer := {} }

-- A run has failed, and the pointer has been put off the tape.
theorem stuck_afresh :
    ∃ (last : Session ScriptReader BufferWriter) (answers : List (Except Fault Answer))
      (fresh : Machine ScriptReader BufferWriter),
      stuck.serve [(.run, 2), (.assign (.pointer (-1)), 0), (.history (some 3), 0)] =
          some (answers, last) ∧
        last.machine.log.stepCount = 2 ∧ last.machine.pointer = -1 ∧
        Machine.create last.machine.program last.machine.reader last.machine.writer
          last.machine.verbose last.machine.hooks last.machine.history = .ok fresh ∧
        ∀ fuel, stuck.serve ([(.run, 2), (.assign (.pointer (-1)), 0), (.history (some 3), 0)] ++
            [(.run, fuel)]) =
          (Session.run fuel ⟨fresh, none, none⟩).map fun (answer, next) =>
            (answers ++ [answer], last.resume next) := by
  obtain ⟨last, answers, served, count, pointer, history⟩ : ∃ last answers,
      stuck.serve [(.run, 2), (.assign (.pointer (-1)), 0), (.history (some 3), 0)] =
          some (answers, last) ∧
        last.machine.log.stepCount = 2 ∧ last.machine.pointer = -1 ∧
        last.machine.history = some 3 :=
    ⟨_, _, rfl, rfl, rfl, rfl⟩
  have fits (n : Int) (given : last.machine.history = some n) :
      0 ≤ n ∧ n < Failure.wordBound := by
    rw [history] at given
    cases given
    decide
  obtain ⟨fresh, created, same⟩ := run_afresh served fits
  exact ⟨last, answers, fresh, served, count, pointer, created, same⟩

end Session

end TapeLang
