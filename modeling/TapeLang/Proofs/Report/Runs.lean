import TapeLang.Proofs.Machine.Diagnostics
import TapeLang.Proofs.Machine.Logged
import TapeLang.Proofs.Report.Text
import TapeLang.Proofs.Source.Symbols

/-! The reports of runs that fail.

What a report shows of a step, apart from its window, does not depend on how the run is logged: a
terse text is the same for a verbose run and for one that is not. -/

set_option autoImplicit false

namespace TapeLang

namespace Report

section
variable {α : Type} {show? : Bool → LogEntry → List α} {program : Program} {shown : Bool}

/-- Whether something that is shown of a step depends on its window only where that is shown. -/
def ShowsPlain (show? : Bool → LogEntry → List α) : Prop :=
  ∀ (shown : Bool) (entry : LogEntry), (shown = true → entry.window = none) →
    show? shown entry = show? false { entry.plain with location := entry.location }

theorem showsPlain_entryLines : ShowsPlain entryLines := by
  rintro (_ | _) entry bare
  · rfl
  · simp [entryLines, bare rfl, LogEntry.plain, placeLine, stepLine]

theorem showsPlain_entryNumbers : ShowsPlain entryNumbers := by
  rintro (_ | _) entry bare
  · rfl
  · simp [entryNumbers, bare rfl, LogEntry.plain, placeNumbers]

/-- What is shown of steps that differ in their windows at most, and in places that are those of one
program, is the same without the windows. -/
theorem ShowsPlain.flatMap (plain : ShowsPlain show?) {entries others : List LogEntry}
    (same : others.map LogEntry.plain = entries.map LogEntry.plain)
    (located : ∀ entry ∈ entries, entry.location = program.locate entry.pc)
    (locatedToo : ∀ entry ∈ others, entry.location = program.locate entry.pc)
    (bare : ∀ entry ∈ others, entry.window = none) :
    others.flatMap (show? shown) = entries.flatMap (show? false) := by
  -- What is shown of a step, from what is kept of it whatever the log is like.
  let shows (entry : LogEntry) : List α :=
    show? false { entry with location := program.locate entry.pc }
  have plainly (shown : Bool) (entry : LogEntry) (located : entry.location = program.locate entry.pc)
      (bare : shown = true → entry.window = none) : show? shown entry = shows entry.plain := by
    rw [plain shown entry bare, located]
    rfl
  calc others.flatMap (show? shown)
    _ = (others.map LogEntry.plain).flatMap shows := by
      rw [List.flatMap_map]
      exact List.flatMap_congr fun entry kept =>
        plainly shown entry (locatedToo entry kept) fun _ => bare entry kept
    _ = (entries.map LogEntry.plain).flatMap shows := by rw [same]
    _ = entries.flatMap (show? false) := by
      rw [List.flatMap_map]
      exact List.flatMap_congr fun entry kept =>
        (plainly false entry (located entry kept) fun no => by cases no).symm

end

/-- Texts are the same if they are about the same failure, after steps that differ in their windows at
most, and in places that are those of one program. -/
theorem text_eq {program : Program} {log other : StepLog} {error failed : RunError} {shown : Bool}
    (entries : other.entries.toList.map LogEntry.plain = log.entries.toList.map LogEntry.plain)
    (stepCount : other.stepCount = log.stepCount)
    (located : ∀ entry ∈ log.entries.toList, entry.location = program.locate entry.pc)
    (locatedToo : ∀ entry ∈ other.entries.toList, entry.location = program.locate entry.pc)
    (bare : ∀ entry ∈ other.entries.toList, entry.window = none)
    (line : errorLine failed = errorLine error) (numbers : errorNumbers failed = errorNumbers error) :
    text other failed shown = text log error false ∧
      write other failed shown = write log error false := by
  have size : other.entries.size = log.entries.size := by
    have lengths := congrArg List.length entries
    simpa [Recent.toList, Recent.size] using lengths
  have lines : other.entries.toList.flatMap (entryLines shown) =
      log.entries.toList.flatMap (entryLines false) :=
    showsPlain_entryLines.flatMap entries located locatedToo bare
  have shownNumbers : other.entries.toList.flatMap (entryNumbers shown) =
      log.entries.toList.flatMap (entryNumbers false) :=
    showsPlain_entryNumbers.flatMap entries located locatedToo bare
  have same : text other failed shown = text log error false := by
    rw [text, text, textLines_eq, textLines_eq, lines, line, openingLines, openingLines, omittedLines,
      omittedLines, size, stepCount]
  refine ⟨same, ?_⟩
  rw [write, write, same, textNumbers, textNumbers, shownNumbers, numbers, omittedNumbers,
    omittedNumbers, size, stepCount]

end Report

namespace Machine

variable {ρ ω : Type} {m n : Machine ρ ω} {program : Program} {capacity : Option Nat}

theorem Twins.entries (twins : m.Twins capacity capacity n) :
    n.log.entries.toList.map LogEntry.plain = m.log.entries.toList.map LogEntry.plain := by
  obtain ⟨all, others, keeps, keepsToo, same⟩ := twins.logs
  rw [Recent.toList, Recent.toList, keeps.entries, keepsToo.entries, List.map_reverse,
    List.map_reverse, map_clip, map_clip, same]

variable [Reader ρ] [Writer ω] {text filename : String} {verbose : Bool} {history : Option Int}

omit [Reader ρ] [Writer ω] in
theorem Describes.isLogged (loaded : load text filename = .ok program) {entry : LogEntry}
    {before : Machine ρ ω} {pc p : Nat} {inst : Instruction}
    (describes : Describes program verbose entry before pc p inst) :
    Report.IsLogged verbose entry := by
  refine ⟨?_, ?_, ?_⟩
  · rw [describes.op]
    have member : inst ∈ program.code.toList :=
      Array.mem_toList_iff.mpr (Array.mem_of_getElem? describes.found)
    exact Program.known_of_load loaded inst.op (List.mem_map_of_mem member)
  · cases verbose with
    | false => rw [describes.bare rfl, Option.isSome_none]
    | true =>
      obtain ⟨window, found, _⟩ := describes.window rfl
      rw [found, Option.isSome_some]
  · rintro window found
    cases verbose with
    | false => rw [describes.bare rfl] at found; cases found
    | true =>
      obtain ⟨_, same, shows⟩ := describes.window rfl
      obtain rfl : _ = window := Option.some.inj (same.symm.trans found)
      have around := shows.pointer
      apply List.ne_nil_of_length_pos
      omega

omit [Reader ρ] [Writer ω] in
theorem Describes.located {entry : LogEntry} {before : Machine ρ ω} {pc p : Nat}
    {inst : Instruction} (describes : Describes program verbose entry before pc p inst) :
    entry.location = program.locate entry.pc := by
  obtain ⟨location, stands, found⟩ := describes.location
  rw [found, describes.counter, Program.locate, if_pos (Int.natCast_nonneg pc), Int.toNat_natCast,
    stands]

theorem LogsLast.stepIndex_lt {k : Nat} {state : Machine ρ ω}
    (logs : LogsLast program verbose history m k state) {entry : LogEntry}
    (kept : entry ∈ state.log.entries.toList) : entry.stepIndex < state.log.stepCount := by
  have listed : entry.stepIndex ∈ state.log.entries.toList.map (·.stepIndex) :=
    List.mem_map_of_mem kept
  rw [logs.indices, List.mem_range'_1] at listed
  have most := StepLog.keptOf_le history k
  rw [logs.stepCount]
  omega

theorem LogsLast.size_le {k : Nat} {state : Machine ρ ω}
    (logs : LogsLast program verbose history m k state) :
    state.log.entries.size ≤ state.log.stepCount := by
  have length := congrArg List.length logs.indices
  rw [List.length_map, List.length_range', Recent.toList, List.length_reverse] at length
  rw [logs.stepCount, Recent.size, length]
  exact StepLog.keptOf_le history k

theorem logsLast_of_create (loaded : load text filename = .ok program) {reader : ρ} {writer : ω}
    (created : create program reader writer verbose {} history = .ok m) (fuel : Nat) :
    (m.run fuel).Leaves fun state => ∃ k, LogsLast program verbose history m k state := by
  have within := inRange_of_create created
  obtain ⟨capacity, valid, log⟩ := log_of_create created
  obtain ⟨rfl, _⟩ := StepLog.capacity_eq_ok.mp valid
  have keeps : m.log.Keeps (StepLog.kept history) [] := log ▸ StepLog.keeps_empty verbose _
  refine ((fresh_of_create created).run_afterSteps fuel).imp fun state ⟨k, after⟩ => ⟨k, ?_⟩
  obtain ⟨all, entered⟩ := after.hasEntered (linked_of_load loaded) within keeps
  have logs := entered.logsLast loaded within
  rwa [verbose_of_create created] at logs

theorem ownError_of_stopsAt {error : RunError} {state before : Machine ρ ω} {k pc p : Nat}
    {inst : Instruction} (stops : StopsAt program history m error state k before pc p inst) :
    Report.OwnError error := by
  by_cases told : inst.op.Told (before.tape.cell p) before.reader before.writer
  · exact .inl (stops.ordinary told)
  · obtain ⟨why, untold⟩ := not_forall_not.mp told
    exact .inr (congrArg Reason.kind (stops.untold why untold))

omit [Reader ρ] [Writer ω] in
-- The numbers of a kept step are bounded by those of the text and of the run.
theorem Describes.numbers (loaded : load text filename = .ok program) {entry : LogEntry}
    {before : Machine ρ ω} {pc p bound : Nat} {inst : Instruction}
    (describes : Describes program verbose entry before pc p inst) (length : text.length ≤ bound)
    (tape : Tape.size ≤ bound) (index : entry.stepIndex ≤ bound) :
    ∀ n ∈ (Report.noteStep entry).numbers, n.natAbs ≤ bound := by
  have inside : pc < program.size := (Array.getElem?_eq_some_iff.mp describes.found).1
  have counter : pc ≤ bound := inside.le.trans ((size_le_of_load loaded).trans length)
  have pointer : p ≤ bound := describes.here.inside.le.trans tape
  have small (cell : UInt8) : cell.toNat ≤ bound := by
    have bits := cell.toNat_lt
    simp only [Tape.size] at tape
    omega
  obtain ⟨location, stands, found⟩ := describes.location
  obtain ⟨line, column⟩ := location_le_of_load loaded stands
  have start (window : Tape.Window) (kept : entry.window = some window) : window.start ≤ bound := by
    cases verbose with
    | false => rw [describes.bare rfl] at kept; cases kept
    | true =>
      obtain ⟨_, same, shows⟩ := describes.window rfl
      cases same.symm.trans kept
      exact shows.pointer.1.trans pointer
  simp only [Report.noteStep, Report.StepNote.numbers, found, Option.map_some, Option.elim_some,
    Report.notePlace, Report.PlaceNote.numbers, describes.counter, describes.pointer, describes.cell,
    List.mem_append, List.mem_cons, List.not_mem_nil, or_false]
  rintro n (((rfl | rfl | rfl | rfl) | rfl | rfl) | windowed)
  · exact index
  · exact counter
  · exact pointer
  · exact small _
  · exact line.trans length
  · exact column.trans length
  · cases kept : entry.window with
    | none => rw [kept] at windowed; cases windowed
    | some window =>
      rw [kept] at windowed
      rcases List.mem_cons.mp windowed with rfl | cells
      · exact start window kept
      · obtain ⟨cell, _, rfl⟩ := List.mem_map.mp cells
        exact small cell

theorem StopsAt.numbers (loaded : load text filename = .ok program) {error : RunError}
    {state before : Machine ρ ω} {k pc p bound : Nat} {inst : Instruction}
    (stops : StopsAt program history m error state k before pc p inst) (length : text.length ≤ bound)
    (tape : Tape.size ≤ bound) (count : state.log.stepCount ≤ bound) :
    ∀ n ∈ (Report.noteError error).numbers, n.natAbs ≤ bound := by
  have inside : pc < program.size := (Array.getElem?_eq_some_iff.mp stops.found).1
  have counter : pc ≤ bound := inside.le.trans ((size_le_of_load loaded).trans length)
  have pointer : p ≤ bound := stops.here.inside.le.trans tape
  have steps := stops.stepCount
  simp only [Report.noteError, Report.ErrorNote.numbers, stops.place.1, stops.place.2,
    stops.stepIndex, List.mem_append, Option.mem_toList, Option.some.injEq]
  rintro n ((rfl | rfl) | index)
  · exact counter
  · exact pointer
  · split at index
    · cases index
    · cases index
      omega

/-- What the log of a run has kept when the run is stopped. -/
theorem kept_of_stopped (loaded : load text filename = .ok program) {reader : ρ} {writer : ω}
    (created : create program reader writer verbose {} history = .ok m) {fuel : Nat} {fault : Fault}
    {state : Machine ρ ω} (stopped : m.run fuel = .stopped fault state) :
    state.log.entries.size ≤ state.log.stepCount ∧
      ∀ entry ∈ state.log.entries.toList,
        Report.IsLogged verbose entry ∧ entry.location = program.locate entry.pc := by
  have left := logsLast_of_create loaded created fuel
  rw [stopped] at left
  obtain ⟨k, logs⟩ := left
  refine ⟨logs.size_le, fun entry kept => ?_⟩
  obtain ⟨before, pc, p, inst, _, describes⟩ := logs.entries entry kept
  exact ⟨describes.isLogged loaded, describes.located⟩

/-- A run that is not logged verbosely fails where the same verbose run fails, and its text is the terse
text of that run. -/
theorem quiet_text (loaded : load text filename = .ok program) {reader : ρ} {writer : ω}
    (created : create program reader writer verbose {} history = .ok m)
    (createdToo : create program reader writer false {} history = .ok n) {fuel : Nat}
    {error : RunError} {state : Machine ρ ω} (stopped : m.run fuel = .stopped (.run error) state) :
    ∃ failed left, n.run fuel = .stopped (.run failed) left ∧
      ∀ shown, Report.text left.log failed shown = Report.text state.log error false ∧
        Report.write left.log failed shown = Report.write state.log error false := by
  have twins := twins_of_create (Program.beq_iff.mpr rfl) created createdToo
  have alike := alike_settle (twins.execute fuel)
  rw [← (fresh_of_create created).run_eq, ← (fresh_of_create createdToo).run_eq, stopped] at alike
  cases ended : n.run fuel with
  | done left =>
    rw [ended] at alike
    cases alike
  | exhausted =>
    rw [ended] at alike
    cases alike
  | stopped fault left =>
    rw [ended] at alike
    cases alike with
    | stopped same twins =>
      cases same with
      | @run _ failed reason pc pointer _ =>
        have kept := (kept_of_stopped loaded created stopped).2
        have keptToo := (kept_of_stopped loaded createdToo ended).2
        have line : Report.errorLine failed = Report.errorLine error := by
          rw [Report.errorLine, Report.errorLine, RunError.kind, RunError.kind, RunError.message,
            RunError.message, reason, pc, pointer]
        have numbers : Report.errorNumbers failed = Report.errorNumbers error := by
          rw [Report.errorNumbers, Report.errorNumbers, pc, pointer]
        refine ⟨failed, left, rfl, fun shown => Report.text_eq twins.entries twins.stepCount
          (fun entry there => (kept entry there).2) (fun entry there => (keptToo entry there).2)
          (fun entry there => ?_) line numbers⟩
        simpa using (keptToo entry there).1.window

-- Unless the text or the run is too long for its steps to be numbered, there are both reports.
theorem exists_reports_of_stopped (loaded : load text filename = .ok program) {reader : ρ} {writer : ω}
    (created : create program reader writer verbose {} history = .ok m) {fuel : Nat}
    {error : RunError} {state : Machine ρ ω} (stopped : m.run fuel = .stopped (.run error) state)
    (short : text.length < 10 ^ Decimal.maxDigits)
    (few : state.log.stepCount < 10 ^ Decimal.maxDigits) :
    (∃ report, Report.json state.log error = .ok report) ∧
      ∀ shown, ∃ report, Report.write state.log error shown = .ok report := by
  let bound := max (max text.length state.log.stepCount) Tape.size
  have length : text.length ≤ bound := (Nat.le_max_left ..).trans (Nat.le_max_left ..)
  have count : state.log.stepCount ≤ bound := (Nat.le_max_right ..).trans (Nat.le_max_left ..)
  have tape : Tape.size ≤ bound := Nat.le_max_right ..
  have cells : Tape.size < 10 ^ Decimal.maxDigits :=
    Nat.lt_of_lt_of_le (show Tape.size < 10 ^ 5 by decide)
      (Nat.pow_le_pow_right (by decide) (by decide))
  refine Report.exists_reports (Nat.max_lt.mpr ⟨Nat.max_lt.mpr ⟨short, few⟩, cells⟩) count ?_
  obtain ⟨_, _, _, _, _, _, same, stops⟩ := (run_stops loaded created).1 fuel _ state stopped
  cases same
  intro n there
  rcases List.mem_append.mp there with there | there
  · exact stops.numbers loaded length tape count n there
  · obtain ⟨note, noted, there⟩ := List.mem_flatMap.mp there
    obtain ⟨entry, kept, rfl⟩ := List.mem_map.mp noted
    have left := logsLast_of_create loaded created fuel
    rw [stopped] at left
    obtain ⟨k, logs⟩ := left
    obtain ⟨_, _, _, _, _, describes⟩ := logs.entries entry kept
    exact describes.numbers loaded length tape ((logs.stepIndex_lt kept).le.trans count) n there

theorem stepCount_le_of_stopped (loaded : load text filename = .ok program) {reader : ρ} {writer : ω}
    (created : create program reader writer verbose {} history = .ok m) {fuel : Nat} {fault : Fault}
    {state : Machine ρ ω} (stopped : m.run fuel = .stopped fault state) :
    state.log.stepCount ≤ fuel := by
  obtain ⟨_, k, _, _, _, _, _, stops⟩ := (run_stops loaded created).1 fuel fault state stopped
  rw [stops.stepCount]
  refine stops.reaches.lt_of_ends fun unfinished => ?_
  rw [(fresh_of_create created).run_eq, unfinished] at stopped
  cases stopped

/-- A run without hooks that fails is reported alike as text and in JSON, and the terse text is the one
that the same run has when it is not logged verbosely. There are such reports unless the text or the
run is too long for its steps to be numbered. -/
theorem run_told (loaded : load text filename = .ok program) {reader : ρ} {writer : ω}
    (created : create program reader writer verbose {} history = .ok m) {fuel : Nat}
    {error : RunError} {state : Machine ρ ω} (stopped : m.run fuel = .stopped (.run error) state) :
    Report.Agree verbose state.log error ∧
      (text.length < 10 ^ Decimal.maxDigits → state.log.stepCount < 10 ^ Decimal.maxDigits →
        (∃ report, Report.json state.log error = .ok report) ∧
          ∀ shown, ∃ report, Report.write state.log error shown = .ok report) ∧
      ∃ quiet, create program reader writer false {} history = .ok quiet ∧
        ∃ failed left, quiet.run fuel = .stopped (.run failed) left ∧
          ∀ shown, Report.text left.log failed shown = Report.text state.log error false ∧
            Report.write left.log failed shown = Report.write state.log error false := by
  obtain ⟨atMost, kept⟩ := kept_of_stopped loaded created stopped
  obtain ⟨_, _, _, _, _, _, same, stops⟩ := (run_stops loaded created).1 fuel _ state stopped
  cases same
  obtain ⟨quiet, createdToo⟩ :
      ∃ quiet, create program reader writer false {} history = .ok quiet :=
    create_iff.mpr (create_iff.mp ⟨m, created⟩)
  exact ⟨Report.agree (ownError_of_stopsAt stops) atMost fun entry there => (kept entry there).1,
    exists_reports_of_stopped loaded created stopped, quiet, createdToo,
    quiet_text loaded created createdToo stopped⟩

-- Nothing can be read at the third step, and only two steps are kept.
theorem unread_told :
    ∃ (program : Program) (m : Machine ScriptReader BufferWriter) (error : RunError)
      (state : Machine ScriptReader BufferWriter),
      load "+>," "unread" = .ok program ∧ create program {} {} true {} (some 2) = .ok m ∧
        m.run 3 = .stopped (.run error) state ∧ Report.Agree true state.log error ∧
        (∃ report, Report.write state.log error true = .ok report) ∧
        ∃ quiet : Machine ScriptReader BufferWriter,
          create program {} {} false {} (some 2) = .ok quiet ∧
          ∃ failed left, quiet.run 3 = .stopped (.run failed) left ∧
            ∀ shown, Report.text left.log failed shown = Report.text state.log error false ∧
              Report.write left.log failed shown = Report.write state.log error false := by
  let reader : ScriptReader := {}
  let writer : BufferWriter := {}
  obtain ⟨program, loaded, m, created, error, state, stopped, count⟩ : ∃ program,
      load "+>," "unread" = .ok program ∧ ∃ m, create program reader writer true {} (some 2) = .ok m ∧
        ∃ error state, m.run 3 = .stopped (.run error) state ∧ state.log.stepCount = 3 :=
    ⟨_, rfl, _, rfl, _, _, rfl, rfl⟩
  obtain ⟨agree, reports, quiet⟩ := run_told loaded created stopped
  have few : 3 < 10 ^ Decimal.maxDigits := Nat.lt_of_lt_of_le (show 3 < 10 ^ 1 by decide)
    (Nat.pow_le_pow_right (by decide) (by decide))
  have written := (reports few (count ▸ few)).2 true
  exact ⟨program, m, error, state, loaded, created, stopped, agree, written, quiet⟩

end Machine

end TapeLang
