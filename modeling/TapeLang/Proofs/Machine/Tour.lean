import TapeLang.Proofs.Machine.Hooked
import TapeLang.Proofs.Machine.Run

/-! Runs with a record of the points that they pass.

A tour takes every step of a run and notes each call of handlers, each call of step rules and each step
that is logged or taken. Without its notes it is the run. -/

set_option autoImplicit false

namespace TapeLang

inductive Waypoint where
  /-- Handlers of an event are called. -/
  | event (event : Event) (arguments : List Argument)
  | logged (entry : LogEntry)
  /-- The instruction of the step has succeeded. -/
  | taken
  /-- Step rules are called. -/
  | rules (context : StepContext)

namespace Waypoint

def tells (event : Event) : Waypoint → Bool
  | .event told _ => told = event
  | _ => false

def isLogged : Waypoint → Bool
  | logged _ => true
  | _ => false

def isRules : Waypoint → Bool
  | rules _ => true
  | _ => false

def isFinal (waypoint : Waypoint) : Bool := waypoint.tells .programEnd || waypoint.tells .onError

end Waypoint

/-- A machine with the points that its run has passed, in their order. -/
structure Tour (ρ ω : Type) where
  machine : Machine ρ ω
  waypoints : List Waypoint := []

namespace Tour

variable {ρ ω : Type}

def pass (waypoint : Waypoint) (tour : Tour ρ ω) : Tour ρ ω :=
  { tour with waypoints := tour.waypoints ++ [waypoint] }

def act (does : Machine ρ ω → Outcome Fault (Machine ρ ω)) (tour : Tour ρ ω) :
    Outcome Fault (Tour ρ ω) :=
  (does tour.machine).map fun machine => { tour with machine }

section
variable [Writer ω] (fuel : Nat)

def emitEvent (event : Event) (arguments : List Argument) (tour : Tour ρ ω) :
    Outcome Fault (Tour ρ ω) :=
  (tour.pass (.event event arguments)).act (Machine.emitEvent fuel event arguments)

def emitStep (entry : LogEntry) (tour : Tour ρ ω) : Outcome Fault (Tour ρ ω) :=
  let context := ⟨entry.stepIndex, entry.pc, entry.op, tour.machine.pointer, entry.location⟩
  (tour.pass (.rules context)).act (Machine.emitStep fuel entry)

def recordStep (entry : LogEntry) (tour : Tour ρ ω) : Tour ρ ω :=
  { tour with machine := tour.machine.recordStep entry }.pass (.logged entry)

def perform [Reader ρ] (inst : Instruction) (tour : Tour ρ ω) : Outcome Fault (Tour ρ ω) :=
  (tour.act (Machine.perform inst)).next fun tour => .done (tour.pass .taken)

def step [Reader ρ] (gates : Gates) (inst : Instruction) (tour : Tour ρ ω) :
    Outcome Fault (Tour ρ ω) :=
  (if gates.beforeStep then tour.emitEvent fuel .beforeStep [.instruction inst]
    else .done tour).next fun tour =>
      match tour.machine.entryFor inst with
      | .error failure => .stopped (.failure failure) tour
      | .ok entry =>
        ((tour.recordStep entry).perform inst).next fun tour =>
          (if gates.rules then tour.emitStep fuel entry else .done tour).next (act Machine.advance)

def raise (error : RunError) (tour : Tour ρ ω) : Outcome Fault (Tour ρ ω) :=
  let error := error.attachStep tour.machine.log
  (tour.emitEvent fuel .onError [.error error]).next fun tour => .stopped (.run error) tour

def conclude : Outcome Fault (Tour ρ ω) → Outcome Fault (Tour ρ ω)
  | .done tour => tour.emitEvent fuel .programEnd []
  | .stopped (.run error) tour => tour.raise fuel error
  | .stopped (.failure failure) tour =>
    match tour.machine.refuse (.internal failure) with
    | .run error => tour.raise fuel error
    | .failure failure => .stopped (.failure failure) tour
  | .exhausted => .exhausted

end

variable [Reader ρ] [Writer ω]

def execute (gates : Gates) : Nat → Tour ρ ω → Outcome Fault (Tour ρ ω)
  | 0, _ => .exhausted
  | fuel + 1, tour =>
    match tour.machine.pc with
    | none => .stopped (.failure .noCounter) tour
    | some pc =>
      match tour.machine.program.fetch pc with
      | .finished => .done tour
      | .outside => .stopped (.failure (.instructionIndex pc)) tour
      | .instruction inst => (tour.step fuel gates inst).next (execute gates fuel)

def start (fuel : Nat) (tour : Tour ρ ω) : Outcome Fault (Tour ρ ω) :=
  (tour.emitEvent fuel .programStart [.program tour.machine.program.size]).next fun tour =>
    execute tour.machine.hooks.gates fuel tour

end Tour

def Machine.tour {ρ ω : Type} [Reader ρ] [Writer ω] (fuel : Nat) (m : Machine ρ ω) :
    Outcome Fault (Tour ρ ω) :=
  match m.reset with
  | .error failure => .stopped (.failure failure) ⟨m.rewind, []⟩
  | .ok m => Tour.conclude fuel (Tour.start fuel ⟨m, []⟩)

/-! ## Without the notes -/

namespace Tour

variable {ρ ω : Type}

theorem map_act (does : Machine ρ ω → Outcome Fault (Machine ρ ω)) (tour : Tour ρ ω) :
    (tour.act does).map machine = does tour.machine := by
  unfold act
  cases does tour.machine <;> rfl

section
variable [Writer ω] (fuel : Nat)

theorem emitEvent_eq (event : Event) (arguments : List Argument) (tour : Tour ρ ω) :
    tour.emitEvent fuel event arguments = (tour.machine.emitEvent fuel event arguments).map
      (⟨·, tour.waypoints ++ [.event event arguments]⟩) := rfl

theorem map_emitEvent (event : Event) (arguments : List Argument) (tour : Tour ρ ω) :
    (tour.emitEvent fuel event arguments).map machine =
      tour.machine.emitEvent fuel event arguments := map_act _ _

theorem map_emitStep (entry : LogEntry) (tour : Tour ρ ω) :
    (tour.emitStep fuel entry).map machine = tour.machine.emitStep fuel entry := map_act _ _

theorem map_raise (error : RunError) (tour : Tour ρ ω) :
    (tour.raise fuel error).map machine = tour.machine.raise fuel error := by
  simp only [Machine.raise, ← map_emitEvent]
  exact Outcome.map_next fun _ => rfl

theorem map_conclude (outcome : Outcome Fault (Tour ρ ω)) :
    (conclude fuel outcome).map machine = Machine.conclude fuel (outcome.map machine) := by
  cases outcome with
  | done tour => exact map_emitEvent fuel _ _ tour
  | stopped fault tour =>
    cases fault with
    | run error => exact map_raise fuel error tour
    | failure failure =>
      simp only [conclude, Outcome.map, Machine.conclude]
      cases tour.machine.refuse (.internal failure) with
      | run error => exact map_raise fuel error tour
      | failure failure => rfl
  | exhausted => rfl

variable [Reader ρ]

theorem map_perform (inst : Instruction) (tour : Tour ρ ω) :
    (tour.perform inst).map machine = tour.machine.perform inst := by
  rw [← map_act (Machine.perform inst) tour]
  unfold perform
  cases tour.act (Machine.perform inst) <;> rfl

theorem map_step (gates : Gates) (inst : Instruction) (tour : Tour ρ ω) :
    (tour.step fuel gates inst).map machine = tour.machine.step fuel gates inst := by
  unfold step Machine.step
  have told (tour : Tour ρ ω) : (if gates.beforeStep
      then tour.emitEvent fuel .beforeStep [.instruction inst] else .done tour).map machine =
        if gates.beforeStep then tour.machine.emitEvent fuel .beforeStep [.instruction inst]
        else .done tour.machine := by
    split
    · exact map_emitEvent fuel _ _ tour
    · rfl
  have ruled (entry : LogEntry) (tour : Tour ρ ω) : (if gates.rules
      then tour.emitStep fuel entry else .done tour).map machine =
        if gates.rules then tour.machine.emitStep fuel entry else .done tour.machine := by
    split
    · exact map_emitStep fuel entry tour
    · rfl
  rw [← told]
  apply Outcome.map_next
  intro tour
  cases tour.machine.entryFor inst with
  | error failure => rfl
  | ok entry =>
    dsimp only
    rw [show tour.machine.recordStep entry = (tour.recordStep entry).machine from rfl, ← map_perform]
    apply Outcome.map_next
    intro tour
    rw [← ruled]
    exact Outcome.map_next (map_act _)

theorem map_execute (gates : Gates) (tour : Tour ρ ω) :
    (tour.execute gates fuel).map machine = tour.machine.execute gates fuel := by
  induction fuel generalizing tour with
  | zero => rfl
  | succ fuel ih =>
    rw [Machine.execute_succ_next, execute]
    cases tour.machine.pc with
    | none => rfl
    | some pc =>
      dsimp only
      cases tour.machine.program.fetch pc with
      | finished => rfl
      | outside => rfl
      | instruction inst =>
        dsimp only
        rw [← map_step]
        exact Outcome.map_next ih

theorem map_start (tour : Tour ρ ω) :
    (tour.start fuel).map machine = tour.machine.start fuel := by
  unfold start Machine.start
  rw [← map_emitEvent]
  exact Outcome.map_next fun tour => map_execute fuel tour.machine.hooks.gates tour

end

end Tour

/-! ## Before the end -/

namespace Tour

variable {ρ ω : Type} {tour : Tour ρ ω}

def Underway (tour : Tour ρ ω) : Prop := ∀ waypoint ∈ tour.waypoints, waypoint.isFinal = false

theorem Underway.pass (underway : tour.Underway) {waypoint : Waypoint}
    (more : waypoint.isFinal = false) : (tour.pass waypoint).Underway := by
  intro point member
  rcases List.mem_append.mp member with before | new
  · exact underway point before
  · rw [List.mem_singleton.mp new]
    exact more

theorem Underway.act (underway : tour.Underway)
    (does : Machine ρ ω → Outcome Fault (Machine ρ ω)) :
    (tour.act does).Ends Underway fun _ => Underway := by
  unfold Tour.act
  cases does tour.machine with
  | done m => exact underway
  | stopped fault m => exact underway
  | exhausted => trivial

variable [Reader ρ] [Writer ω] (fuel : Nat) (gates : Gates)

theorem Underway.perform (underway : tour.Underway) (inst : Instruction) :
    (tour.perform inst).Ends Underway fun _ => Underway := by
  have taken (next : Tour ρ ω) (underway : next.Underway) : (next.pass .taken).Underway :=
    underway.pass rfl
  exact (underway.act (Machine.perform inst)).next taken

theorem Underway.step (underway : tour.Underway) (inst : Instruction) :
    (tour.step fuel gates inst).Ends Underway fun _ => Underway := by
  have told : (if gates.beforeStep then tour.emitEvent fuel .beforeStep [.instruction inst]
      else .done tour).Ends Underway fun _ => Underway := by
    split
    · exact (underway.pass rfl).act _
    · exact underway
  refine told.next fun tour underway => ?_
  cases tour.machine.entryFor inst with
  | error failure => exact underway
  | ok entry =>
    have same : Underway { tour with machine := tour.machine.recordStep entry } := underway
    have logged : (tour.recordStep entry).Underway := same.pass rfl
    refine (logged.perform inst).next fun tour underway => ?_
    have ruled : (if gates.rules then tour.emitStep fuel entry else .done tour).Ends
        Underway fun _ => Underway := by
      split
      · exact (underway.pass rfl).act _
      · exact underway
    exact ruled.next fun tour underway => underway.act Machine.advance

theorem Underway.execute (underway : tour.Underway) :
    (tour.execute gates fuel).Ends Underway fun _ => Underway := by
  induction fuel generalizing tour with
  | zero => trivial
  | succ fuel ih =>
    unfold Tour.execute
    split
    · exact underway
    · split
      · exact underway
      · exact underway
      · exact (underway.step fuel gates _).next fun _ underway => ih underway

theorem Underway.start (underway : tour.Underway) :
    (tour.start fuel).Ends Underway fun _ => Underway :=
  ((underway.pass rfl).act _).next fun tour underway =>
    underway.execute fuel tour.machine.hooks.gates

end Tour

/-! ## What a stopped run tells -/

theorem Machine.exists_report {ρ ω : Type} {m : Machine ρ ω} {fault : Fault}
    (counter : m.pc ≠ none) (worded : fault.HasWords) : ∃ error, m.report fault = .run error := by
  cases fault with
  | run error => exact ⟨_, rfl⟩
  | failure failure =>
    obtain ⟨pc, here⟩ := Option.ne_none_iff_exists'.mp counter
    obtain ⟨message, words⟩ := worded
    exact ⟨_, report_of_message here words⟩

namespace Tour

variable {ρ ω : Type} [Writer ω] (fuel : Nat) {tour : Tour ρ ω}

-- The error that a fault becomes is told before it stops the run.
theorem conclude_stopped {fault : Fault} {error : RunError}
    (reported : tour.machine.report fault = .run error) :
    conclude fuel (.stopped fault tour) =
      (tour.emitEvent fuel .onError [.error error]).next fun tour => .stopped (.run error) tour := by
  cases fault with
  | run given =>
    cases reported
    rfl
  | failure failure =>
    simp only [Machine.report] at reported
    simp only [conclude]
    cases refused : tour.machine.refuse (.internal failure) with
    | run given =>
      rw [refused] at reported
      cases reported
      rfl
    | failure other =>
      rw [refused] at reported
      cases reported

-- Without a counter, or without words, there is no error to tell of.
theorem conclude_failure {fault : Fault} {failure : Failure}
    (failed : tour.machine.report fault = .failure failure) :
    conclude fuel (.stopped fault tour) = .stopped (.failure failure) tour := by
  cases fault with
  | run given => cases failed
  | failure cause =>
    simp only [Machine.report] at failed
    simp only [conclude]
    cases refused : tour.machine.refuse (.internal cause) with
    | run given =>
      rw [refused] at failed
      cases failed
    | failure other =>
      rw [refused] at failed
      cases failed
      rfl

end Tour

/-! ## Runs with their notes -/

/-- A tour of which the notes are known is determined by its run. -/
theorem Tour.eq_map {ρ ω : Type} {outcome : Outcome Fault (Tour ρ ω)} {waypoints : List Waypoint}
    (passes : outcome.Ends (fun tour => tour.waypoints = waypoints)
      fun _ tour => tour.waypoints = waypoints) :
    outcome = (outcome.map machine).map (⟨·, waypoints⟩) := by
  cases outcome with
  | done tour =>
    cases passes
    rfl
  | stopped fault tour =>
    cases passes
    rfl
  | exhausted => rfl

/-- A tour is a run with notes. -/
theorem Machine.map_tour {ρ ω : Type} [Reader ρ] [Writer ω] (fuel : Nat) (m : Machine ρ ω) :
    (m.tour fuel).map Tour.machine = m.run fuel := by
  cases ready : m.reset with
  | error failure => simp only [tour, run, ready, Outcome.map]
  | ok fresh => simp only [tour, run, ready, Tour.map_conclude, Tour.map_start]

end TapeLang
