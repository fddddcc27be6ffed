import TapeLang.Proofs.Log.Entries
import TapeLang.Proofs.Machine.Faults
import TapeLang.Proofs.Machine.Hooked
import TapeLang.Proofs.Machine.Run
import TapeLang.Proofs.Machine.Tour

/-! The order in which hooks are called.

A run tells of its start, goes through rounds of which each tells of a step, logs it, takes it and
calls step rules, and tells last of its end or of an error. Only the last round can be cut short. -/

set_option autoImplicit false

namespace TapeLang

/-- What happens at a step that is not cut short: the instruction that handlers are told of, the entry
in the log and what step rules are told. -/
structure Round where
  inst : Instruction
  entry : LogEntry
  context : StepContext

namespace Round

def waypoints (round : Round) : List Waypoint :=
  [.event .beforeStep [.instruction round.inst], .logged round.entry, .taken, .rules round.context]

/-- A round with an index: it logs the instruction that handlers were told of, and step rules are told
of what was logged and of the pointer afterwards. -/
structure At (k : Nat) (round : Round) : Prop where
  stepIndex : round.entry.stepIndex = k
  op : round.entry.op = round.inst.op
  context : round.context =
    { stepIndex := k, pc := round.entry.pc, op := round.entry.op
      pointer := round.entry.op.pointerAfter round.entry.pointer
      location := round.entry.location }

end Round

theorem countP_rounds {test : Waypoint → Bool} {n : Nat}
    (each : ∀ round : Round, round.waypoints.countP test = n) (rounds : List Round) :
    (rounds.flatMap Round.waypoints).countP test = n * rounds.length := by
  induction rounds with
  | nil => rfl
  | cons round rest ih =>
    rw [List.flatMap_cons, List.countP_append, each, ih, List.length_cons, Nat.mul_succ, Nat.add_comm]

/-- A round that has not come to its end: nothing of it, handlers told, a step logged, or step rules
called. -/
inductive CutShort (k : Nat) : List Waypoint → Prop where
  | none : CutShort k []
  | told {inst : Instruction} : CutShort k [.event .beforeStep [.instruction inst]]
  | logged {inst : Instruction} {entry : LogEntry} : entry.stepIndex = k → entry.op = inst.op →
      CutShort k [.event .beforeStep [.instruction inst], .logged entry]
  | ruled {round : Round} : round.At k → CutShort k round.waypoints

/-- How a part of a round counts towards the steps that are told, logged and followed by rules. -/
theorem CutShort.counts {k : Nat} {cut : List Waypoint} (short : CutShort k cut) :
    cut.countP Waypoint.isLogged ≤ cut.countP (Waypoint.tells .beforeStep) ∧
      cut.countP (Waypoint.tells .beforeStep) ≤ cut.countP Waypoint.isLogged + 1 ∧
      cut.countP Waypoint.isRules ≤ cut.countP Waypoint.isLogged ∧
      cut.countP Waypoint.isLogged ≤ cut.countP Waypoint.isRules + 1 ∧
      cut.countP Waypoint.isFinal = 0 := by
  cases short <;> simp [Round.waypoints, List.countP_cons, Waypoint.isLogged, Waypoint.isRules,
    Waypoint.isFinal, Waypoint.tells]

namespace Machine

variable {ρ ω : Type}

theorem entryFor_eq_ok {m : Machine ρ ω} {inst : Instruction} {entry : LogEntry}
    (entered : m.entryFor inst = .ok entry) :
    entry.stepIndex = m.log.stepCount ∧ entry.op = inst.op ∧ entry.pointer = m.pointer := by
  unfold entryFor at entered
  split at entered <;> cases entered
  exact ⟨rfl, rfl, rfl⟩

theorem perform_pointer [Reader ρ] [Writer ω] (inst : Instruction) (m : Machine ρ ω) :
    (m.perform inst).Ends (fun next => next.pointer = inst.op.pointerAfter m.pointer)
      fun _ _ => True := by
  obtain ⟨op, target⟩ := inst
  cases op with
  | increment | decrement =>
    simp only [perform, changeCell]
    split
    · trivial
    · exact rfl
  | moveRight | moveLeft =>
    simp only [perform, move]
    split
    · exact rfl
    · trivial
  | jumpIfZero | jumpIfNonZero =>
    simp only [perform, jumpIf]
    split
    · trivial
    · split <;> exact rfl
  | output =>
    simp only [perform, output, send_eq]
    split
    · trivial
    · rcases Writer.write m.writer _ with ⟨_ | _, writer⟩
      · trivial
      · exact rfl
  | input =>
    simp only [perform, input]
    rcases Reader.read m.reader with ⟨_ | value, reader⟩ <;> dsimp only
    · trivial
    · split
      · trivial
      · split
        · trivial
        · exact rfl
  | other name => exact rfl

end Machine

/-! ## Rounds of a tour -/

/-- A tour that has passed some points, then whole rounds, and then a part of one more. -/
structure Tour.Passed {ρ ω : Type} (before : List Waypoint) (rounds : List Round)
    (cut : List Waypoint) (tour : Tour ρ ω) : Prop where
  waypoints : tour.waypoints = before ++ rounds.flatMap Round.waypoints ++ cut
  placed : ∀ (k : Nat) (round : Round), rounds[k]? = some round → round.At k
  stepCount : tour.machine.log.stepCount = rounds.length + cut.countP Waypoint.isLogged

namespace Tour

variable {ρ ω : Type} {before cut : List Waypoint} {rounds : List Round} {tour : Tour ρ ω}

theorem Passed.pass (passed : tour.Passed before rounds cut) {waypoint : Waypoint}
    (quiet : waypoint.isLogged = false) :
    (tour.pass waypoint).Passed before rounds (cut ++ [waypoint]) where
  waypoints := by rw [Tour.pass, passed.waypoints, List.append_assoc]
  placed := passed.placed
  stepCount := by simp [Tour.pass, passed.stepCount, quiet]

theorem Passed.recordStep (passed : tour.Passed before rounds cut) (entry : LogEntry) :
    (tour.recordStep entry).Passed before rounds (cut ++ [.logged entry]) where
  waypoints := by
    show tour.waypoints ++ _ = _
    rw [passed.waypoints, List.append_assoc]
  placed := passed.placed
  stepCount := by
    show tour.machine.log.stepCount + 1 = _
    rw [passed.stepCount, List.countP_append, Nat.add_assoc]
    rfl

theorem Passed.act (passed : tour.Passed before rounds cut)
    {does : Machine ρ ω → Outcome Fault (Machine ρ ω)} {P : Machine ρ ω → Prop}
    (kept : (does tour.machine).Ends (fun m => P m ∧ m.log = tour.machine.log)
      fun _ m => m.log = tour.machine.log) :
    (tour.act does).Ends (fun tour => P tour.machine ∧ tour.Passed before rounds cut)
      fun _ tour => tour.Passed before rounds cut := by
  unfold Tour.act
  rw [Outcome.ends_map]
  have stays {m : Machine ρ ω} (log : m.log = tour.machine.log) :
      ({ tour with machine := m } : Tour ρ ω).Passed before rounds cut :=
    ⟨passed.waypoints, passed.placed, log ▸ passed.stepCount⟩
  exact kept.imp (fun _ kept => ⟨kept.1, stays kept.2⟩) fun _ _ log => stays log

-- A whole round is no longer cut short.
theorem Passed.round {round : Round} (passed : tour.Passed before rounds round.waypoints)
    (here : round.At rounds.length) : tour.Passed before (rounds ++ [round]) [] where
  waypoints := by simp [passed.waypoints]
  placed k other listed := by
    rw [List.getElem?_append] at listed
    split at listed
    · exact passed.placed k other listed
    · have index : k = rounds.length := by
        have size := (List.getElem?_eq_some_iff.mp listed).1
        rw [List.length_singleton] at size
        omega
      rw [index, Nat.sub_self] at listed
      cases listed
      rwa [index]
  stepCount := by
    rw [passed.stepCount, List.length_append]
    rfl

section
variable [Writer ω] (fuel : Nat)

theorem Passed.emitEvent (passed : tour.Passed before rounds cut) (event : Event)
    (arguments : List Argument) :
    (tour.emitEvent fuel event arguments).Ends
      (Passed before rounds (cut ++ [.event event arguments]))
      fun _ => Passed before rounds (cut ++ [.event event arguments]) := by
  have noted : (tour.pass (.event event arguments)).Passed before rounds
      (cut ++ [.event event arguments]) := passed.pass rfl
  have told := noted.act (P := fun _ => True)
    ((tour.machine.emitEvent_spares fuel event arguments).imp
      (fun _ spared => ⟨trivial, spared.log⟩) fun _ _ spared => spared.log)
  exact told.imp (fun _ kept => kept.2) fun _ _ kept => kept

theorem Passed.emitStep (passed : tour.Passed before rounds cut) (entry : LogEntry) :
    (tour.emitStep fuel entry).Ends
      (Passed before rounds (cut ++ [.rules
        ⟨entry.stepIndex, entry.pc, entry.op, tour.machine.pointer, entry.location⟩]))
      fun _ => Passed before rounds (cut ++ [.rules
        ⟨entry.stepIndex, entry.pc, entry.op, tour.machine.pointer, entry.location⟩]) := by
  have noted : (tour.pass (.rules
      ⟨entry.stepIndex, entry.pc, entry.op, tour.machine.pointer, entry.location⟩)).Passed before
        rounds _ := passed.pass rfl
  have told := noted.act (P := fun _ => True)
    ((tour.machine.emitStep_spares fuel entry).imp
      (fun _ spared => ⟨trivial, spared.log⟩) fun _ _ spared => spared.log)
  exact told.imp (fun _ kept => kept.2) fun _ _ kept => kept

end

theorem Passed.advance (passed : tour.Passed before rounds cut) :
    (tour.act Machine.advance).Ends (Passed before rounds cut) fun _ => Passed before rounds cut := by
  have kept : tour.machine.advance.Ends (fun m => True ∧ m.log = tour.machine.log)
      fun _ m => m.log = tour.machine.log := by
    unfold Machine.advance
    split
    · exact ⟨trivial, rfl⟩
    · exact rfl
  exact (passed.act kept).imp (fun _ kept => kept.2) fun _ _ kept => kept

variable [Reader ρ] [Writer ω]

theorem Passed.perform (passed : tour.Passed before rounds cut) (inst : Instruction) :
    (tour.perform inst).Ends
      (fun next => next.machine.pointer = inst.op.pointerAfter tour.machine.pointer ∧
        next.Passed before rounds (cut ++ [.taken]))
      fun _ => Passed before rounds cut := by
  have framed := Machine.perform_frames inst tour.machine
  have kept : (tour.machine.perform inst).Ends
      (fun m => m.pointer = inst.op.pointerAfter tour.machine.pointer ∧ m.log = tour.machine.log)
      fun _ m => m.log = tour.machine.log := by
    refine ((Machine.perform_pointer inst tour.machine).and framed).imp ?_ ?_
    · rintro m ⟨pointer, _, _, _, _, _, rfl, _⟩
      exact ⟨pointer, rfl⟩
    · rintro fault m ⟨_, _, _, _, _, _, rfl, _⟩
      rfl
  exact (passed.act kept).next fun next done => ⟨done.1, done.2.pass rfl⟩

/-- A step is a whole round, unless it is stopped. -/
theorem Passed.step (passed : tour.Passed before rounds []) (fuel : Nat) (inst : Instruction) :
    (tour.step fuel ⟨true, true⟩ inst).Ends
      (fun tour => ∃ round, tour.Passed before (rounds ++ [round]) [])
      fun _ tour => ∃ cut, CutShort rounds.length cut ∧ tour.Passed before rounds cut := by
  have told := passed.emitEvent fuel .beforeStep [.instruction inst]
  refine (told.imp (fun _ kept => kept) fun _ _ kept => ⟨_, .told, kept⟩).next ?_
  intro tour passed
  cases entered : tour.machine.entryFor inst with
  | error failure => exact ⟨_, .told, passed⟩
  | ok entry =>
    obtain ⟨stepIndex, op, pointer⟩ := Machine.entryFor_eq_ok entered
    have index : entry.stepIndex = rounds.length := by
      rw [stepIndex, passed.stepCount]
      rfl
    have performed := (passed.recordStep entry).perform inst
    refine (performed.imp (fun _ kept => kept) fun _ _ kept => ⟨_, .logged index op, kept⟩).next ?_
    rintro tour ⟨moved, passed⟩
    let context : StepContext :=
      ⟨entry.stepIndex, entry.pc, entry.op, tour.machine.pointer, entry.location⟩
    have here : (Round.mk inst entry context).At rounds.length := by
      refine ⟨index, op, ?_⟩
      simp only [context, index, moved, op, pointer]
      rfl
    have ruled := passed.emitStep fuel entry
    refine (ruled.imp (fun _ kept => kept) fun _ _ kept => ⟨_, .ruled here, kept⟩).next ?_
    intro tour passed
    exact passed.advance.imp (fun _ kept => ⟨_, kept.round here⟩) fun _ _ kept =>
      ⟨_, .ruled here, kept⟩

theorem Passed.execute (passed : tour.Passed before rounds []) (fuel : Nat) :
    (tour.execute ⟨true, true⟩ fuel).Ends (fun tour => ∃ rounds, tour.Passed before rounds [])
      fun _ tour => ∃ rounds cut, CutShort rounds.length cut ∧ tour.Passed before rounds cut := by
  induction fuel generalizing rounds tour with
  | zero => trivial
  | succ fuel ih =>
    unfold Tour.execute
    split
    · exact ⟨rounds, [], .none, passed⟩
    · split
      · exact ⟨rounds, passed⟩
      · exact ⟨rounds, [], .none, passed⟩
      · rename_i inst _
        have stepped := passed.step fuel inst
        refine (stepped.imp (fun _ kept => kept) fun _ _ kept => ⟨rounds, kept⟩).next ?_
        rintro tour ⟨round, passed⟩
        exact ih passed

end Tour

/-! ## Whole runs -/

namespace Machine

variable {ρ ω : Type} [Reader ρ] [Writer ω] {m : Machine ρ ω} {fuel : Nat}

def departure (m : Machine ρ ω) : Waypoint := .event .programStart [.program m.program.size]

/-- From the start to the end of the loop, or to where it is stopped. -/
theorem start_passes (initial : m.Initial)
    (heeded : ∀ started, m.emitEvent fuel .programStart [.program m.program.size] = .done started →
      started.hooks.hasHandlers .beforeStep = true ∧ started.hooks.hasRules = true) :
    (Tour.start fuel ⟨m, []⟩).Ends (fun tour => ∃ rounds, tour.Passed [m.departure] rounds [])
      fun _ tour => ∃ rounds cut, CutShort rounds.length cut ∧
        tour.Passed [m.departure] rounds cut ∧
        ∀ fault state, m.emitEvent fuel .programStart [.program m.program.size] =
          .stopped fault state → rounds = [] ∧ cut = [] := by
  have spared := m.emitEvent_spares fuel .programStart [.program m.program.size]
  have passed {state : Machine ρ ω} (log : state.log = m.log) :
      (Tour.mk state [m.departure]).Passed [m.departure] [] [] :=
    ⟨rfl, by simp, by simp [log, initial.stepCount]⟩
  have told : Tour.emitEvent fuel .programStart [.program m.program.size] ⟨m, []⟩ =
      (m.emitEvent fuel .programStart [.program m.program.size]).map (⟨·, [m.departure]⟩) := rfl
  unfold Tour.start
  rw [told]
  cases emitted : m.emitEvent fuel .programStart [.program m.program.size] with
  | done started =>
    rw [emitted] at spared
    obtain ⟨handlers, rules⟩ := heeded started emitted
    have gates : started.hooks.gates = ⟨true, true⟩ := by
      rw [HookRegistry.gates, handlers, rules]
    simp only [Outcome.map, Outcome.next_done, gates]
    refine ((passed spared.log).execute fuel).imp (fun _ kept => kept) ?_
    rintro _ _ ⟨rounds, cut, short, kept⟩
    exact ⟨rounds, cut, short, kept, by simp⟩
  | stopped fault state =>
    rw [emitted] at spared
    exact ⟨[], [], .none, passed spared.log, fun _ _ _ => ⟨rfl, rfl⟩⟩
  | exhausted => trivial

/-- The way of a run that ends: the start is told, rounds follow one another with perhaps a part of one
more, and what is told last is the end or an error. -/
structure Itinerary (m : Machine ρ ω) (fuel : Nat) (waypoints : List Waypoint) (rounds : List Round)
    (cut : List Waypoint) (last : Waypoint) : Prop where
  way : waypoints = m.departure :: (rounds.flatMap Round.waypoints ++ cut ++ [last])
  placed : ∀ (k : Nat) (round : Round), rounds[k]? = some round → round.At k
  short : CutShort rounds.length cut
  arrival : (∃ state, m.start fuel = .done state) ∧ cut = [] ∧ last = .event .programEnd [] ∨
    ∃ fault state error, m.start fuel = .stopped fault state ∧ state.report fault = .run error ∧
      last = .event .onError [.error error]
  unstarted : ∀ fault state, m.emitEvent fuel .programStart [.program m.program.size] =
    .stopped fault state → rounds = [] ∧ cut = []
  once : waypoints.countP Waypoint.isFinal = 1
  ended : .event .programEnd [] ∈ waypoints ↔ ∃ state, m.start fuel = .done state

/-- How often steps have been told and rules called, by the number of steps that have been logged. -/
structure Counted (waypoints : List Waypoint) (state : Machine ρ ω) : Prop where
  toldAtLeast : state.log.stepCount ≤ waypoints.countP (Waypoint.tells .beforeStep)
  toldAtMost : waypoints.countP (Waypoint.tells .beforeStep) ≤ state.log.stepCount + 1
  ruledAtMost : waypoints.countP Waypoint.isRules ≤ state.log.stepCount
  ruledAtLeast : state.log.stepCount ≤ waypoints.countP Waypoint.isRules + 1

variable {waypoints cut : List Waypoint} {rounds : List Round} {last : Waypoint}

section
omit [Reader ρ] [Writer ω]

theorem countP_way (m : Machine ρ ω) (rounds : List Round) (cut : List Waypoint) (last : Waypoint)
    {test : Waypoint → Bool} {n : Nat} (each : ∀ round : Round, round.waypoints.countP test = n)
    (start : test m.departure = false) :
    (m.departure :: (rounds.flatMap Round.waypoints ++ cut ++ [last])).countP test =
      n * rounds.length + cut.countP test + [last].countP test := by
  rw [List.countP_cons_of_neg (by simp [start]), List.countP_append, List.countP_append,
    countP_rounds each]

-- How the end of a run counts.
theorem countP_final (final : last = .event .programEnd [] ∨
      ∃ error, last = .event .onError [.error error]) :
    [last].countP (Waypoint.tells .beforeStep) = 0 ∧ [last].countP Waypoint.isLogged = 0 ∧
      [last].countP Waypoint.isRules = 0 ∧ [last].countP Waypoint.isFinal = 1 := by
  rcases final with rfl | ⟨error, rfl⟩ <;> exact ⟨rfl, rfl, rfl, rfl⟩

-- What a tour that has arrived leaves behind.
theorem counted_of_passed {outcome : Outcome Fault (Tour ρ ω)} (short : CutShort rounds.length cut)
    (final : last = .event .programEnd [] ∨ ∃ error, last = .event .onError [.error error])
    (passed : outcome.Ends (Tour.Passed [m.departure] rounds (cut ++ [last]))
      fun _ => Tour.Passed [m.departure] rounds (cut ++ [last])) :
    outcome.Ends (fun tour => Counted tour.waypoints tour.machine ∧ tour.waypoints =
        m.departure :: (rounds.flatMap Round.waypoints ++ cut ++ [last]))
      fun _ tour => Counted tour.waypoints tour.machine ∧ tour.waypoints =
        m.departure :: (rounds.flatMap Round.waypoints ++ cut ++ [last]) := by
  have counted (tour : Tour ρ ω) (passed : tour.Passed [m.departure] rounds (cut ++ [last])) :
      Counted tour.waypoints tour.machine ∧ tour.waypoints =
        m.departure :: (rounds.flatMap Round.waypoints ++ cut ++ [last]) := by
    have way : tour.waypoints =
        m.departure :: (rounds.flatMap Round.waypoints ++ cut ++ [last]) := by
      rw [passed.waypoints, ← List.append_assoc]
      rfl
    have told : tour.waypoints.countP (Waypoint.tells .beforeStep) = 1 * rounds.length +
        cut.countP (Waypoint.tells .beforeStep) + [last].countP (Waypoint.tells .beforeStep) := by
      rw [way]
      exact countP_way m rounds cut last (fun _ => rfl) rfl
    have ruled : tour.waypoints.countP Waypoint.isRules = 1 * rounds.length +
        cut.countP Waypoint.isRules + [last].countP Waypoint.isRules := by
      rw [way]
      exact countP_way m rounds cut last (fun _ => rfl) rfl
    have stepCount := passed.stepCount
    rw [List.countP_append] at stepCount
    obtain ⟨noTelling, noLogging, noRules, _⟩ := countP_final final
    obtain ⟨loggedFirst, toldOnce, ruledLast, ruledOnce, _⟩ := short.counts
    refine ⟨?_, way⟩
    constructor <;> omega
  exact passed.imp counted fun _ => counted

-- Before the end nothing final is told.
theorem not_final_of_mem (m : Machine ρ ω) (short : CutShort rounds.length cut) {waypoint : Waypoint}
    (member : waypoint ∈ m.departure :: (rounds.flatMap Round.waypoints ++ cut)) :
    waypoint.isFinal = false := by
  have none : (m.departure :: (rounds.flatMap Round.waypoints ++ cut)).countP Waypoint.isFinal = 0 := by
    rw [List.countP_cons_of_neg (by simp [departure, Waypoint.isFinal, Waypoint.tells]),
      List.countP_append, countP_rounds (n := 0) fun _ => rfl, short.counts.2.2.2.2, Nat.zero_mul]
  simpa using List.countP_eq_zero.mp none waypoint member

end

theorem itinerary_of_arrival {m : Machine ρ ω} (short : CutShort rounds.length cut)
    (placed : ∀ (k : Nat) (round : Round), rounds[k]? = some round → round.At k)
    (arrival : (∃ state, m.start fuel = .done state) ∧ cut = [] ∧ last = .event .programEnd [] ∨
      ∃ fault state error, m.start fuel = .stopped fault state ∧ state.report fault = .run error ∧
        last = .event .onError [.error error])
    (unstarted : ∀ fault state, m.emitEvent fuel .programStart [.program m.program.size] =
      .stopped fault state → rounds = [] ∧ cut = []) :
    Itinerary m fuel (m.departure :: (rounds.flatMap Round.waypoints ++ cut ++ [last])) rounds cut
      last := by
  have final : last = .event .programEnd [] ∨ ∃ error, last = .event .onError [.error error] :=
    arrival.imp (·.2.2) fun ⟨_, _, error, _, _, same⟩ => ⟨error, same⟩
  refine ⟨rfl, placed, short, arrival, unstarted, ?_, ?_⟩
  · rw [countP_way m rounds cut last (n := 0) (fun _ => rfl) rfl, short.counts.2.2.2.2,
      (countP_final final).2.2.2, Nat.zero_mul]
  · rcases arrival with ⟨started, _, rfl⟩ | ⟨fault, state, error, stopped, _, rfl⟩
    · simp [started]
    · simp only [stopped, reduceCtorEq, exists_false, iff_false]
      intro member
      rw [← List.cons_append] at member
      rcases List.mem_append.mp member with earlier | same
      · have quiet := not_final_of_mem m short earlier
        simp [Waypoint.isFinal, Waypoint.tells] at quiet
      · simp at same

-- The notes of a tour are known once it has arrived.
theorem exists_itinerary {m fresh : Machine ρ ω} (itinerary : Itinerary fresh fuel
      (fresh.departure :: (rounds.flatMap Round.waypoints ++ cut ++ [last])) rounds cut last)
    (passed : (m.tour fuel).Ends (Tour.Passed [fresh.departure] rounds (cut ++ [last]))
      fun _ => Tour.Passed [fresh.departure] rounds (cut ++ [last])) :
    ∃ waypoints rounds cut last, m.tour fuel = (m.run fuel).map (⟨·, waypoints⟩) ∧
      Itinerary fresh fuel waypoints rounds cut last ∧ (m.run fuel).Leaves (Counted waypoints) := by
  have final : last = .event .programEnd [] ∨ ∃ error, last = .event .onError [.error error] :=
    itinerary.arrival.imp (·.2.2) fun ⟨_, _, error, _, _, same⟩ => ⟨error, same⟩
  have ended := counted_of_passed itinerary.short final passed
  refine ⟨_, rounds, cut, last, ?_, itinerary, ?_⟩
  · rw [← map_tour]
    exact Tour.eq_map (ended.imp (fun _ kept => kept.2) fun _ _ kept => kept.2)
  · rw [← map_tour]
    cases outcome : m.tour fuel <;> rw [outcome] at ended
    · exact ended.2 ▸ ended.1
    · exact ended.2 ▸ ended.1
    · trivial

/-- Whatever hooks do, a run calls them in this order, if steps are told and rules called at all. -/
theorem run_itinerary {m fresh : Machine ρ ω} (targeted : m.program.Targeted)
    (counted : ¬ m.hooks.Declares (.assign (.pc none))) (ready : m.reset = .ok fresh) {fuel : Nat}
    (heeded : ∀ started, fresh.emitEvent fuel .programStart [.program fresh.program.size] =
      .done started → started.hooks.hasHandlers .beforeStep = true ∧ started.hooks.hasRules = true)
    (ends : m.run fuel ≠ .exhausted) :
    ∃ waypoints rounds cut last, m.tour fuel = (m.run fuel).map (⟨·, waypoints⟩) ∧
      Itinerary fresh fuel waypoints rounds cut last ∧ (m.run fuel).Leaves (Counted waypoints) := by
  have toured : m.tour fuel = Tour.conclude fuel (Tour.start fuel ⟨fresh, []⟩) := by
    simp only [tour, ready]
  have passes := start_passes (initial_of_reset ready) heeded
  have governed : (fresh.start fuel).Ends _ _ := (governed_of_reset ready).start targeted counted
  have erased := Tour.map_start fuel (Tour.mk fresh [])
  cases started : Tour.start fuel ⟨fresh, []⟩ with
  | done tour =>
    rw [started] at passes erased toured
    obtain ⟨rounds, passed⟩ := passes
    have finished : fresh.start fuel = .done tour.machine := erased.symm
    refine exists_itinerary (itinerary_of_arrival .none passed.placed
      (.inl ⟨⟨_, finished⟩, rfl, rfl⟩) ?_) ?_
    · intro fault state unstarted
      rw [start, unstarted] at finished
      cases finished
    · rw [toured]
      exact passed.emitEvent fuel .programEnd []
  | stopped fault tour =>
    rw [started] at passes erased toured
    obtain ⟨rounds, cut, short, passed, unstarted⟩ := passes
    have stopped : fresh.start fuel = .stopped fault tour.machine := erased.symm
    rw [stopped] at governed
    have words := fresh.start_hasWords fuel
    rw [stopped] at words
    obtain ⟨error, reported⟩ := exists_report governed.1.counter words
    refine exists_itinerary (itinerary_of_arrival short passed.placed
      (.inr ⟨fault, tour.machine, error, stopped, reported, rfl⟩) unstarted) ?_
    rw [toured, Tour.conclude_stopped fuel reported]
    exact (passed.emitEvent fuel .onError [.error error]).next fun _ kept => kept
  | exhausted =>
    have bare := map_tour fuel m
    rw [toured, started] at bare
    exact absurd bare.symm ends

/-- Each step is told, and the second call of the step rule fails. -/
def guided : Machine ScriptReader BufferWriter where
  program := { code := #[⟨.increment, none⟩, ⟨.moveRight, none⟩, ⟨.increment, none⟩] }
  reader := {}
  writer := {}
  hooks :=
    { beforeStep := [⟨0, "t", { id := "told", tasks := [.mk none .log] }⟩]
      rules := [⟨1, by decide, "rule", "t",
        { id := "rule", tasks := [.mk (some 2) (.raise (.raised .value "enough"))] }⟩] }
  log := .empty false (some 16)

theorem guided_itinerary :
    guided.program.Targeted ∧ ¬ guided.hooks.Declares (.assign (.pc none)) ∧
      guided.reset = .ok guided ∧ guided.run 4 ≠ .exhausted ∧
      ∃ waypoints rounds cut last, Itinerary guided 4 waypoints rounds cut last ∧
        waypoints.countP (Waypoint.tells .beforeStep) = 2 ∧ waypoints.countP Waypoint.isRules = 2 ∧
        (guided.run 4).Leaves (Counted waypoints) := by
  have targeted : guided.program.Targeted := by
    intro inst member isJump
    simp [guided] at member
    rcases member with rfl | rfl | rfl <;> cases isJump <;> contradiction
  have counted : ¬ guided.hooks.Declares (.assign (.pc none)) := by
    simp [guided, HookRegistry.declares_iff]
  have ready : guided.reset = .ok guided := rfl
  have unheard : guided.emitEvent 4 .programStart [.program guided.program.size] = .done guided := rfl
  obtain ⟨fault, state, noted, toured, told, ruled⟩ : ∃ fault state noted,
      guided.tour 4 = .stopped fault ⟨state, noted⟩ ∧
        noted.countP (Waypoint.tells .beforeStep) = 2 ∧ noted.countP Waypoint.isRules = 2 :=
    ⟨_, _, _, rfl, rfl, rfl⟩
  have stopped := map_tour 4 guided
  rw [toured] at stopped
  have ends : guided.run 4 ≠ .exhausted := by simp [← stopped, Outcome.map]
  obtain ⟨waypoints, rounds, cut, last, same, itinerary, counts⟩ :=
    run_itinerary targeted counted ready (fun started emitted => by
      rw [unheard] at emitted
      cases emitted
      exact ⟨rfl, rfl⟩) ends
  rw [toured, ← stopped] at same
  cases same
  exact ⟨targeted, counted, ready, ends, _, rounds, cut, last, itinerary, told, ruled, counts⟩

end Machine

end TapeLang
