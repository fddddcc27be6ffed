import TapeLang.CommandLine.Run
import TapeLang.Proofs.Machine.Diagnostics
import TapeLang.Proofs.Report.Runs
import TapeLang.Proofs.Source.Commands
import TapeLang.Proofs.Source.Decoding
import TapeLang.Proofs.Source.Symbols
import TapeLang.Proofs.Text.Newlines
import TapeLang.Proofs.Text.Replacing

/-! What a source file says besides its commands.

A command line decodes the bytes of its source file, loads the text and runs the program. How it exits
and what it prints are decided by those bytes alone that are commands. -/

set_option autoImplicit false

namespace TapeLang.CommandLine

/-- The text that a source file is read as: what cannot be decoded is replaced, and line ends are
unified. -/
def IsSource (content : List UInt8) (text : String) : Prop :=
  ∃ decoded, Text.Utf8.ReadsAs content decoded ∧ Text.Unifies decoded text.toList

theorem isSource_iff {content : List UInt8} {text : String} :
    IsSource content text ↔ text = decodeSource content := by
  constructor
  · rintro ⟨decoded, reads, unifies⟩
    rw [decodeSource, ← Text.Utf8.readsAs_iff.mp reads, ← Text.unifies_iff.mp unifies,
      String.ofList_toList]
  · rintro rfl
    refine ⟨_, Text.Utf8.readsAs_iff.mpr rfl, Text.unifies_iff.mpr ?_⟩
    rw [decodeSource, String.toList_ofList]

theorem IsSource.length_le {content : List UInt8} {text : String} (isSource : IsSource content text) :
    text.length ≤ content.length := by
  obtain ⟨decoded, reads, unifies⟩ := isSource
  rw [← String.length_toList]
  exact unifies.length_le.trans reads.length_le

/-- The bytes that are commands, in their order, as a text. -/
def commandText (content : List UInt8) : String :=
  String.ofList ((content.map fun byte => Char.ofNat byte.toNat).filter fun c =>
    (Opcode.ofSymbol? c).isSome)

theorem commandText_ops (content : List UInt8) :
    (commandText content).toList.filterMap Opcode.ofSymbol? = content.filterMap Opcode.ofByte? := by
  have text : (commandText content).toList =
      commands (content.map fun byte => Char.ofNat byte.toNat) := String.toList_ofList
  rw [text, commands_ops, List.filterMap_map]
  rfl

theorem decodeSource_ops (content : List UInt8) :
    (decodeSource content).toList.filterMap Opcode.ofSymbol? =
      content.filterMap Opcode.ofByte? := by
  rw [decodeSource, String.toList_ofList, Text.unifyNewlines_ops, Text.Utf8.decodeReplacing_ops]

/-- A file and its commands alone have the same code, or are refused for the same kind of error. -/
theorem load_decodeSource (content : List UInt8) (filename other : String) :
    ((load (decodeSource content) filename).mapError ParseError.kind).map Program.code =
      ((load (commandText content) other).mapError ParseError.kind).map Program.code := by
  rw [load_eq_link, load_eq_link, decodeSource_ops, commandText_ops]

def seen : Outcome Fault (Machine StreamReader TextSink) → Option (Exit × Array Nat)
  | .done m => some (.code 0, m.writer.text)
  | .stopped _ m => some (.code 1, m.writer.text)
  | .exhausted => none

def stream (input : List UInt8) (eofError : Bool) : StreamReader :=
  { rest := input, atEnd := if eofError then none else some (.int 0) }

def execute (fuel : Nat) (codec : Codec) (eofError : Bool) (input : List UInt8) (text : String) :
    Option (Exit × Array Nat) :=
  match load text with
  | .error _ => some (.code 1, #[])
  | .ok program => seen (Machine.run fuel
      { program, reader := stream input eofError, writer := { codec, flushing := true } })

theorem reports_exit {options : Options} {log : StepLog} {error : RunError}
    (written : ∃ report, Report.write log error options.verbose = .ok report)
    (document : ∃ report, Report.json log error = .ok report) :
    (reports options log error).2 = .code 1 := by
  obtain ⟨written, writes⟩ := written
  obtain ⟨document, tells⟩ := document
  rw [reports, writes]
  dsimp only
  split
  · rw [tells]
  · rfl

/-- What a command line prints and how it exits, against what is seen of a run. -/
def SeenAs (short : Prop) (result : Option Result) (seen : Option (Exit × Array Nat)) : Prop :=
  result.map (fun result => result.output.text) = seen.map Prod.snd ∧
    (short → result.map (fun result => (result.exit, result.output.text)) = seen)

theorem runProgram_seenAs {text filename : String} {program other : Program}
    (loaded : load text filename = .ok program) (same : program.code = other.code)
    {options : Options} {codec : Codec} (chosen : options.codec = some codec) (fuel : Nat)
    (input : List UInt8) :
    SeenAs (text.length < 10 ^ Decimal.maxDigits ∧ fuel < 10 ^ Decimal.maxDigits)
      (runProgram fuel options input program {})
      (seen (Machine.run fuel { program := other, reader := stream input options.eofError
                                writer := { codec, flushing := true } })) := by
  have ready (program : Program) (verbose : Bool) : ∃ m, Machine.create program
      (stream input options.eofError) (TextSink.mk codec true #[] 0) verbose = .ok m := by
    refine Machine.create_iff.mpr fun n given => ?_
    cases given
    decide
  obtain ⟨m, created⟩ := ready program options.verbose
  obtain ⟨n, createdToo⟩ := ready other false
  have twins := Machine.twins_of_create (Program.beq_iff.mpr same) created createdToo
  have alike := Machine.alike_settle (twins.execute fuel)
  rw [← (Machine.fresh_of_create created).run_eq, ← (Machine.fresh_of_create createdToo).run_eq]
    at alike
  have stops (fault : Fault) (state : Machine StreamReader TextSink)
      (stopped : m.run fuel = .stopped fault state) : ∃ error, fault = .run error ∧
        (text.length < 10 ^ Decimal.maxDigits ∧ fuel < 10 ^ Decimal.maxDigits →
          (reports options state.log error).2 = .code 1) := by
    obtain ⟨error, _, _, _, _, _, rfl, _⟩ := (Machine.run_stops loaded created).1 fuel fault state stopped
    refine ⟨error, rfl, fun ⟨short, few⟩ => ?_⟩
    have count := Machine.stepCount_le_of_stopped loaded created stopped
    obtain ⟨document, written⟩ :=
      Machine.exists_reports_of_stopped loaded created stopped short (count.trans_lt few)
    exact reports_exit (written options.verbose) document
  have run : Machine.run fuel { program := other, reader := stream input options.eofError
                                writer := { codec, flushing := true } } = n.run fuel :=
    Machine.run_of_reset createdToo fuel
  rw [run]
  unfold runProgram
  rw [chosen]
  dsimp only
  rw [show machineFor options input program {} codec = .ok m from created]
  dsimp only
  generalize m.run fuel = left at alike stops ⊢
  generalize n.run fuel = right at alike ⊢
  cases alike with
  | @done m n twins =>
    have printed : m.writer.text = n.writer.text := congrArg TextSink.text twins.core.writer.symm
    exact ⟨congrArg some printed, fun _ => congrArg (fun text => some (Exit.code 0, text)) printed⟩
  | @stopped fault _ m n _ twins =>
    obtain ⟨error, rfl, exits⟩ := stops fault m rfl
    have printed : m.writer.text = n.writer.text := congrArg TextSink.text twins.core.writer.symm
    refine ⟨congrArg some printed, fun short => ?_⟩
    show some ((reports options m.log error).2, m.writer.text) = some (Exit.code 1, n.writer.text)
    rw [exits short, printed]
  | exhausted => exact ⟨rfl, fun _ => rfl⟩

variable {files : FileTree} {arguments : List String} {options : Options} {codec : Codec}
  {content : List UInt8}

/-- The commands of a source file decide everything that is seen of a command line: its source is
decoded with replacements, it is loaded as its commands alone are, and it exits and prints as running
these does. A file or a run that is too long for its steps to be numbered prints the same, but its
failure may be impossible to report. -/
theorem run_ignores_commentary (parsed : parse arguments = .ok options)
    (chosen : options.codec = some codec) (reads : options.sourceMode = false)
    (runs : options.dump = false) (bare : options.extensions = [])
    (stored : files.readBytes options.program.toList = .ok content) :
    ∃ text, sourceOf files options = .ok (text, options.program) ∧
      (∀ other, IsSource content other ↔ other = text) ∧
      ((load text options.program).mapError ParseError.kind).map Program.code =
        ((load (commandText content)).mapError ParseError.kind).map Program.code ∧
      ∀ fuel input, SeenAs
        (content.length < 10 ^ Decimal.maxDigits ∧ fuel < 10 ^ Decimal.maxDigits)
        (run fuel files input arguments)
        (execute fuel codec options.eofError input (commandText content)) := by
  have source : sourceOf files options = .ok (decodeSource content, options.program) := by
    rw [sourceOf, reads, stored]
    rfl
  have same := load_decodeSource content options.program "<string>"
  have isSource : IsSource content (decodeSource content) := isSource_iff.mpr rfl
  refine ⟨_, source, fun _ => isSource_iff, same, fun fuel input => ?_⟩
  have services : loadExtensions files options.extensions = .ok {} := by
    rw [bare]
    rfl
  rw [run, parsed]
  dsimp only
  rw [runOptions, source, execute]
  dsimp only
  cases loaded : load (decodeSource content) options.program with
  | error error =>
    rw [loaded] at same
    cases loadedToo : load (commandText content) with
    | error _ => exact ⟨rfl, fun _ => rfl⟩
    | ok program =>
      rw [loadedToo] at same
      cases same
  | ok program =>
    rw [loaded] at same
    cases loadedToo : load (commandText content) with
    | error _ =>
      rw [loadedToo] at same
      cases same
    | ok other =>
      rw [loadedToo] at same
      dsimp only
      rw [runs, if_neg Bool.false_ne_true, extendAndRun, services]
      have shows := runProgram_seenAs loaded (Except.ok.inj same) chosen fuel input
      exact ⟨shows.1, fun short => shows.2 ⟨isSource.length_le.trans_lt short.1, short.2⟩⟩

/-- A byte that cannot be decoded, two commands, and a line end of two bytes between them. -/
def latin : List UInt8 := [0xFC, 0x2B, 0x0D, 0x0A, 0x2E]

theorem latin_ignores_commentary :
    ∃ (files : FileTree) (options : Options),
      parse ["p"] = .ok options ∧
        files.readBytes options.program.toList = .ok latin ∧
        commandText latin = "+." ∧
        ∀ input, (run 3 files input ["p"]).map (fun result => (result.exit, result.output.text)) =
          execute 3 .ascii false input "+." := by
  have parsed : parse ["p"] = .ok { program := "p" } := by rfl
  have stored : FileTree.readBytes ⟨[], [([['p']], .plain latin)]⟩ "p".toList = .ok latin := by rfl
  have commands : commandText latin = "+." := by rfl
  obtain ⟨_, _, _, _, shows⟩ := run_ignores_commentary parsed rfl rfl rfl rfl stored
  have short : latin.length < 10 ^ Decimal.maxDigits ∧ 3 < 10 ^ Decimal.maxDigits := by
    have least : 10 ^ 1 ≤ 10 ^ Decimal.maxDigits := Nat.pow_le_pow_right (by decide) (by decide)
    exact ⟨Nat.lt_of_lt_of_le (by decide) least, Nat.lt_of_lt_of_le (by decide) least⟩
  refine ⟨_, _, parsed, stored, commands, fun input => ?_⟩
  exact commands ▸ (shows 3 input).2 short

end TapeLang.CommandLine
