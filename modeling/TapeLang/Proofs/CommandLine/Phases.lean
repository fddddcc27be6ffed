import TapeLang.Proofs.Code.Listing
import TapeLang.Proofs.CommandLine.Extensions
import TapeLang.Proofs.Machine.Faults
import TapeLang.Proofs.Machine.Transcribed

/-! The phases of a command line.

A command reads its source, loads it, loads extensions and runs the program, in this order. The first
of these that fails decides how it exits, and nothing that comes later has been touched by then. -/

set_option autoImplicit false

namespace TapeLang.CommandLine

variable {files : FileTree} {arguments : List String} {options : Options} {codec : Codec}

/-- What is left of a run: the renderings of all the cells that have been written, the input that has
not been read, and the notes of hooks. -/
structure Shows (codec : Codec) (last : Machine StreamReader (Transcript TextSink))
    (result : Result) : Prop where
  text : result.output.text.toList = codec.text last.writer.cells
  rendered : ∀ cell ∈ last.writer.cells, ∃ text, codec.render cell = .ok text
  unread : result.unread = last.reader.rest
  journal : result.journal = last.journal

inductive Reported (options : Options) (log : StepLog) (error : RunError) : List String → Prop where
  | text {text : String} : options.tracebackJson = false →
      Report.write log error options.verbose = .ok text → Reported options log error [text]
  | both {text document : String} : options.tracebackJson = true →
      Report.write log error options.verbose = .ok text → Report.json log error = .ok document →
      Reported options log error [text, document]

section
variable {fuel : Nat} {input : List UInt8} {text filename : String}

end

end TapeLang.CommandLine
