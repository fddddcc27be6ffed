import TapeLang.Machine.Run
import TapeLang.Proofs.Hook.Calls
import TapeLang.Proofs.Machine.Effect
import TapeLang.Proofs.Machine.Run

/-! Hooks that only observe.

A machine whose hooks only take notes runs as it does without hooks. The two runs are followed at
once: handlers and step rules are called on one side only, and they leave that side as it was. -/

set_option autoImplicit false

namespace TapeLang

def Action.Observes (action : Action) : Prop := action = .log ∨ ∃ line, action = .trace line

namespace HookRegistry

variable {registry other : HookRegistry}

def Observes (registry : HookRegistry) : Prop := ∀ action, registry.Declares action → action.Observes

structure Few (size : Nat) (registry : HookRegistry) : Prop where
  handlers : ∀ event, (registry.handlers event).length ≤ size
  rules : registry.rules.length ≤ size

theorem exists_few (registry : HookRegistry) : ∃ size, registry.Few size := by
  refine ⟨registry.programStart.length + registry.beforeStep.length + registry.programEnd.length +
    registry.onError.length + registry.rules.length, ?_, ?_⟩
  · intro event
    cases event <;> simp only [handlers] <;> omega
  · omega

theorem Few.recounted {size : Nat} (few : registry.Few size) (same : registry.Recounted other) :
    other.Few size where
  handlers event := Nat.le_trans (Nat.le_of_eq (same.length_handlers event)) (few.handlers event)
  rules := Nat.le_trans (Nat.le_of_eq same.length_rules) few.rules

end HookRegistry

namespace Machine

variable {ρ ω : Type}

/-- Machines that agree in all but their hooks and in what these have noted. -/
structure SameRun {ρ ω : Type} (m n : Machine ρ ω) : Prop extends SameCore m n where
  program : n.program = m.program
  verbose : n.verbose = m.verbose
  history : n.history = m.history
  log : n.log = m.log

/-- A machine with hooks that only observe it, beside one without hooks that does the same. -/
structure Watches (size : Nat) (m n : Machine ρ ω) : Prop where
  same : m.SameRun n
  observes : m.hooks.Observes
  few : m.hooks.Few size
  hooks : n.hooks = {}
  inside : Tape.position? m.pointer ≠ none

variable {m n : Machine ρ ω} {size fuel : Nat} {event : Event} {arguments : List Argument}

theorem SameRun.errorHere (same : m.SameRun n) (reason : Reason) :
    m.errorHere reason = n.errorHere reason := by
  simp only [Machine.errorHere, here, same.counter, same.program, same.pointer]

theorem SameRun.entryFor (same : m.SameRun n) (inst : Instruction) :
    m.entryFor inst = n.entryFor inst := by
  simp only [Machine.entryFor, cell?, window, same.tape, same.pointer, same.counter, same.log,
    same.program, same.verbose]

theorem SameRun.refuse (same : m.SameRun n) (reason : Reason) : m.refuse reason = n.refuse reason := by
  rw [Machine.refuse, Machine.refuse, same.errorHere, same.counter]

theorem SameRun.errors (same : m.SameRun n) {left right : Fault}
    (faults : SameFault m n left right) : left = right := by
  cases faults with
  | failure => rfl
  | run => rw [same.errorHere]

-- Counts and notes are none of the things that have to agree.
theorem Watches.noted (watches : m.Watches size n) {hooks : HookRegistry}
    (same : m.hooks.Recounted hooks) (journal : Array JournalEntry) (diagnostics : Array String) :
    Watches size { m with hooks, journal, diagnostics } n where
  same := ⟨⟨watches.same.tape, watches.same.pointer, watches.same.counter, watches.same.reader,
    watches.same.writer⟩, watches.same.program, watches.same.verbose, watches.same.history,
    watches.same.log⟩
  observes action declares := watches.observes action (same.declares declares)
  few := watches.few.recounted same
  hooks := watches.hooks
  inside := watches.inside

section
variable [Writer ω]

theorem Watches.tame (n : Machine ρ ω) :
    HookHost.Tame Action.Observes (Watches size · n) fun _ _ => False where
  declared m watches := watches.observes
  recounted m registry watches same := watches.noted same m.journal m.diagnostics
  acts m action watches observes extension id arguments := by
    have noted := watches.noted ⟨fun _ => rfl, rfl⟩
    rcases observes with rfl | ⟨line, rfl⟩
    · exact noted _ _
    · show (HookHost.stop (m.trace line arguments)).Ends _ _
      unfold Machine.trace
      split
      · split
        · rename_i off
          exact absurd (cell?_eq_none off) watches.inside
        · exact noted _ _
      · exact noted _ _
      · exact noted _ _
      · exact noted _ _

theorem act_ne_exhausted (m : Machine ρ ω) (action : Action) (extension id : String)
    (arguments : List Argument) : HookHost.perform extension id arguments m action ≠ .exhausted := by
  cases action with
  | log | raise | raiseRun => exact nofun
  | assign assignment =>
    cases assignment with
    | pc | pointer | verbose => exact nofun
    | cell value =>
      show HookHost.stop (m.storeCell value) ≠ _
      unfold storeCell
      split
      · exact nofun
      · split <;> exact nofun
  | write cell =>
    show HookHost.stop (m.writeCell cell) ≠ _
    unfold writeCell
    split <;> exact nofun
  | register hook =>
    unfold HookHost.perform
    dsimp only
    split <;> exact nofun
  | trace line =>
    show HookHost.stop (m.trace line arguments) ≠ _
    unfold Machine.trace
    split
    · split <;> exact nofun
    · exact nofun
    · exact nofun
    · exact nofun

/-- Observers are never in the way. -/
theorem Watches.emitEvent (watches : m.Watches size n) :
    (m.emitEvent fuel event arguments).Passes (size < fuel) (Watches size · n) := by
  have called : (HookHost.emit fuel event arguments m).Passes (size < fuel) (Watches size · n) :=
    (tame n).emit_passes act_ne_exhausted (fun _ watches => watches.few.handlers event) watches
  unfold Machine.emitEvent
  cases emitted : HookHost.emit fuel event arguments m with
  | stopped fault next =>
    rw [emitted] at called
    exact absurd called.ends id
  | done | exhausted =>
    rw [emitted] at called
    exact called

theorem Watches.emitStep (watches : m.Watches size n) (entry : LogEntry) :
    (m.emitStep fuel entry).Passes (size < fuel) (Watches size · n) := by
  unfold Machine.emitStep
  generalize StepContext.mk entry.stepIndex entry.pc entry.op m.pointer entry.location = context
  have called : (HookHost.afterStep fuel context m).Passes (size < fuel) (Watches size · n) :=
    (tame n).afterStep_passes act_ne_exhausted (fun _ watches => watches.few.rules) watches
  cases emitted : HookHost.afterStep fuel context m with
  | stopped fault next =>
    rw [emitted] at called
    exact absurd called.ends id
  | done | exhausted =>
    rw [emitted] at called
    exact called

end

/-! ## The two runs -/

theorem Watches.recordStep (watches : m.Watches size n) (entry : LogEntry) :
    (m.recordStep entry).Watches size (n.recordStep entry) where
  same := ⟨⟨watches.same.tape, watches.same.pointer, watches.same.counter, watches.same.reader,
    watches.same.writer⟩, watches.same.program, watches.same.verbose, watches.same.history,
    congrArg (·.record entry) watches.same.log⟩
  observes := watches.observes
  few := watches.few
  hooks := watches.hooks
  inside := watches.inside

theorem Watches.advance (watches : m.Watches size n) :
    m.advance.Alike (· = ·) (Watches size) n.advance := by
  unfold Machine.advance
  rw [watches.same.counter]
  cases m.pc with
  | none => exact .stopped rfl watches
  | some pc =>
    exact .done ⟨⟨⟨watches.same.tape, watches.same.pointer, rfl, watches.same.reader,
      watches.same.writer⟩, watches.same.program, watches.same.verbose, watches.same.history,
      watches.same.log⟩, watches.observes, watches.few, watches.hooks, watches.inside⟩

def unhooked (m : Machine ρ ω) : Machine ρ ω := { m with hooks := {} }

theorem reset_unhooked (m : Machine ρ ω) : m.unhooked.reset = m.reset.map unhooked := by
  simp only [Machine.reset, unhooked]
  cases StepLog.capacity m.history <;> rfl

theorem hooks_of_reset {fresh : Machine ρ ω} (reset : m.reset = .ok fresh) :
    fresh.hooks = m.hooks := by
  unfold Machine.reset at reset
  split at reset <;> cases reset
  rfl

theorem watches_unhooked {fresh : Machine ρ ω} (reset : m.reset = .ok fresh)
    (observes : fresh.hooks.Observes) (few : fresh.hooks.Few size) :
    fresh.Watches size fresh.unhooked where
  same := ⟨⟨rfl, rfl, rfl, rfl, rfl⟩, rfl, rfl, rfl, rfl⟩
  observes := observes
  few := few
  hooks := rfl
  inside := by
    rw [(initial_of_reset reset).at.position]
    exact nofun

theorem Watches.raise [Writer ω] (watches : m.Watches size n) (error : RunError) :
    Outcome.Shadows (size < fuel) (· = ·) (Watches size) (m.raise fuel error)
      (.stopped (.run (error.attachStep n.log)) n) := by
  unfold Machine.raise
  rw [watches.same.log]
  exact watches.emitEvent.next_shadows fun m watches _ => .stopped rfl watches

theorem shadows_conclude [Writer ω] {left right : Outcome Fault (Machine ρ ω)}
    (alike : left.Alike (· = ·) (Watches size) right) :
    Outcome.Shadows (size < fuel) (· = ·) (Watches size) (conclude fuel left) (settle right) := by
  cases alike with
  | done watches => exact watches.emitEvent.shadows fun _ watches => watches
  | @stopped fault _ m n same watches =>
    subst same
    cases fault with
    | run error => exact watches.raise error
    | failure failure =>
      simp only [conclude, settle, report, ← watches.same.refuse]
      cases m.refuse (.internal failure) with
      | run error => exact watches.raise error
      | failure failure => exact fun _ => .stopped rfl watches
  | exhausted => exact fun _ => .exhausted

variable [Reader ρ] [Writer ω]

theorem Watches.perform (watches : m.Watches size n) (inst : Instruction) :
    (m.perform inst).Alike (· = ·) (Watches size) (n.perform inst) := by
  refine (perform_framed watches.same.toSameCore inst).imp (fun _ _ same => watches.same.errors same) ?_
  rintro _ _ ⟨core, ⟨tape, pointer, pc, reader, writer, rfl, inside⟩, _, _, _, _, _, rfl, _⟩
  exact ⟨⟨core, watches.same.program, watches.same.verbose, watches.same.history, watches.same.log⟩,
    watches.observes, watches.few, watches.hooks, inside watches.inside⟩

/-- One step of either machine; the one without hooks needs no bound. -/
theorem Watches.step (watches : m.Watches size n) (gates : Gates) (inst : Instruction)
    (other : Nat) :
    Outcome.Shadows (size < fuel) (· = ·) (Watches size) (m.step fuel gates inst)
      (n.step other .closed inst) := by
  have told : (if gates.beforeStep then m.emitEvent fuel .beforeStep [.instruction inst]
      else .done m).Passes (size < fuel) (Watches size · n) := by
    split
    · exact watches.emitEvent
    · exact Outcome.passes_done watches
  rw [step_closed_eq]
  -- Handlers are told on the left only; the rest of the step is taken on both sides.
  refine told.next_shadows fun m watches => ?_
  rw [watches.same.entryFor]
  cases n.entryFor inst with
  | error failure => exact fun _ => .stopped rfl watches
  | ok entry =>
    have performed := (watches.recordStep entry).perform inst
    refine Outcome.Shadows.next (fun _ => performed) fun m n watches => ?_
    have ruled : (if gates.rules then m.emitStep fuel entry else .done m).Passes (size < fuel)
        (Watches size · n) := by
      split
      · exact watches.emitStep entry
      · exact Outcome.passes_done watches
    exact ruled.next_shadows fun m watches _ => watches.advance

theorem Watches.execute (watches : m.Watches size n) (gates : Gates) :
    Outcome.Shadows False (· = ·) (Watches size) (execute gates fuel m)
      (execute .closed fuel n) := by
  induction fuel generalizing m n with
  | zero => exact fun ends => absurd rfl (ends.resolve_left id)
  | succ fuel ih =>
    rw [execute_succ_next, execute_succ_next, watches.same.counter, watches.same.program]
    split
    · exact fun _ => .stopped rfl watches
    · split
      · exact fun _ => .done watches
      · exact fun _ => .stopped rfl watches
      · rename_i inst _
        have stepped : Outcome.Shadows (size < fuel) _ _ (m.step fuel gates inst) _ :=
          watches.step gates inst fuel
        exact (stepped.imp False.elim).next fun _ _ watches => ih watches

/-- With enough calls at every point, the watched loop takes as many steps as the other. -/
theorem Watches.execute_ends (watches : m.Watches size n) (gates : Gates) {extra : Nat}
    (enough : size < extra) (ends : Machine.execute .closed fuel n ≠ .exhausted) :
    Machine.execute gates (fuel + extra) m ≠ .exhausted := by
  induction fuel generalizing m n with
  | zero => exact absurd rfl ends
  | succ fuel ih =>
    rw [Nat.add_right_comm, execute_succ_next]
    rw [execute_succ_next, watches.same.counter, watches.same.program] at ends
    cases counter : m.pc with
    | none => exact nofun
    | some pc =>
      simp only [counter] at ends
      cases fetched : m.program.fetch pc with
      | finished | outside => simp [fetched]
      | instruction inst =>
        simp only [fetched] at ends ⊢
        have stepped := watches.step gates inst fuel (.inl (Nat.lt_add_left fuel enough))
        exact stepped.next_ne_exhausted ends fun _ _ watches rest => ih watches rest

theorem Watches.start (watches : m.Watches size n) (fuel : Nat) :
    Outcome.Shadows False (· = ·) (Watches size) (m.start fuel) (Machine.execute .closed fuel n) :=
  (watches.emitEvent.imp False.elim).next_shadows fun _ watches => watches.execute _

theorem Watches.start_ends (watches : m.Watches size n) {extra : Nat} (enough : size < extra)
    (ends : Machine.execute .closed fuel n ≠ .exhausted) : m.start (fuel + extra) ≠ .exhausted := by
  have told : (m.emitEvent (fuel + extra) .programStart [.program m.program.size]).Passes
      (size < fuel + extra) (Watches size · n) := watches.emitEvent
  exact told.ends.next_ne_exhausted (told.bounded (Nat.lt_add_left fuel enough)) fun _ watches =>
    watches.execute_ends _ enough ends

theorem Watches.run (watches : m.Watches size n) (ready : m.reset = .ok m) (fresh : n.Fresh)
    (ends : m.run fuel ≠ .exhausted) : (m.run fuel).Alike (· = ·) SameRun (n.run fuel) := by
  rw [fresh.run_eq]
  simp only [Machine.run, ready] at ends ⊢
  have started : m.start fuel ≠ .exhausted := by
    intro short
    exact ends (by rw [short]; rfl)
  have alike := watches.start fuel (.inr started)
  exact (shadows_conclude alike (.inr ends)).imp (fun _ _ same => same) fun _ _ watches => watches.same

theorem Watches.run_ends (watches : m.Watches size n) (ready : m.reset = .ok m) (fresh : n.Fresh)
    {extra : Nat} (enough : size < extra) (ends : n.run fuel ≠ .exhausted) :
    m.run (fuel + extra) ≠ .exhausted := by
  rw [fresh.run_ends] at ends
  have started := watches.start_ends enough ends
  have alike := watches.start (fuel + extra) (.inr started)
  simp only [Machine.run, ready]
  have concluded := shadows_conclude alike (.inl (Nat.lt_add_left fuel enough))
  rw [concluded.ends_iff, ← fresh.run_eq, fresh.run_ends]
  exact alike.ends_iff.mp started

/-- Observers do not change a run: with them it ends if it does without them, and then with the same
error or none and in the same state. -/
theorem run_observed {m : Machine ρ ω} (observes : m.hooks.Observes) :
    ((∃ fuel, m.run fuel ≠ .exhausted) ↔ ∃ fuel, m.unhooked.run fuel ≠ .exhausted) ∧
      ∀ fuel other, m.run fuel ≠ .exhausted → m.unhooked.run other ≠ .exhausted →
        (m.run fuel).Alike (· = ·) SameRun (m.unhooked.run other) := by
  have bare := m.reset_unhooked
  cases reset : m.reset with
  | error failure =>
    -- A history that cannot be had stops both runs before they start.
    rw [reset] at bare
    simp only [Machine.run, reset, bare, Except.map]
    have fails (state : Machine ρ ω) :
        Outcome.stopped (Fault.failure failure) state ≠ .exhausted := by simp
    refine ⟨iff_of_true ⟨0, fails _⟩ ⟨0, fails _⟩, ?_⟩
    intro fuel other _ _
    exact .stopped rfl ⟨⟨rfl, rfl, rfl, rfl, rfl⟩, rfl, rfl, rfl, rfl⟩
  | ok ready =>
    rw [reset] at bare
    obtain ⟨size, few⟩ := ready.hooks.exists_few
    rw [← hooks_of_reset reset] at observes
    have watches := watches_unhooked reset observes few
    have again := reset_reset reset
    have fresh : ready.unhooked.Fresh := ⟨reset_reset bare, rfl⟩
    simp only [run_of_reset reset, run_of_reset bare]
    refine ⟨⟨?_, ?_⟩, ?_⟩
    · rintro ⟨fuel, ends⟩
      exact ⟨fuel, (watches.run again fresh ends).ends_iff.mp ends⟩
    · rintro ⟨fuel, ends⟩
      exact ⟨fuel + (size + 1), watches.run_ends again fresh (Nat.lt_succ_self size) ends⟩
    · intro fuel other ends enough
      -- The bare run ends in the same way within either bound.
      have alike := watches.run again fresh ends
      rwa [fresh.run_unique (alike.ends_iff.mp ends) enough] at alike

/-- Changes a cell and fails to move left, with notes taken all the while. -/
def watched : Machine ScriptReader BufferWriter where
  program := { code := #[⟨.increment, none⟩, ⟨.moveLeft, none⟩] }
  reader := {}
  writer := {}
  hooks :=
    { beforeStep := [⟨0, "t", { id := "before", tasks := [.mk none .log] }⟩]
      onError := [⟨3, "t", { id := "error", tasks := [.mk none .log, .mk none (.trace .failed)] }⟩]
      rules := [⟨2, by decide, "rule", "t", { id := "rule", tasks := [.mk none .log] }⟩] }

theorem watched_observed :
    watched.hooks.Observes ∧ watched.run 4 ≠ .exhausted ∧ watched.unhooked.run 2 ≠ .exhausted ∧
      (watched.run 4).Alike (· = ·) SameRun (watched.unhooked.run 2) := by
  have observes : watched.hooks.Observes := by
    intro action declares
    have listed : action = .log ∨ (action = .log ∨ action = .trace .failed) ∨ action = .log := by
      simpa [watched, HookRegistry.declares_iff] using declares
    rcases listed with rfl | (rfl | rfl) | rfl
    · exact .inl rfl
    · exact .inl rfl
    · exact .inr ⟨_, rfl⟩
    · exact .inl rfl
  obtain ⟨fault, state, stopped⟩ : ∃ fault state, watched.run 4 = .stopped fault state :=
    ⟨_, _, rfl⟩
  obtain ⟨bareFault, bareState, bareStopped⟩ : ∃ fault state,
      watched.unhooked.run 2 = .stopped fault state := ⟨_, _, rfl⟩
  have ends : watched.run 4 ≠ .exhausted := by simp [stopped]
  have bareEnds : watched.unhooked.run 2 ≠ .exhausted := by simp [bareStopped]
  exact ⟨observes, ends, bareEnds, (run_observed observes).2 4 2 ends bareEnds⟩

end Machine

end TapeLang
