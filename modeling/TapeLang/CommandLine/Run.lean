import TapeLang.Code.Listing
import TapeLang.CommandLine.Options
import TapeLang.Extension.Load
import TapeLang.Machine.Run
import TapeLang.Report.Json
import TapeLang.Report.Text
import TapeLang.Source.Load

/-! What a command line does: it finds the source, loads it, loads extensions and runs the program,
and the first of these that fails ends it. -/

set_option autoImplicit false

namespace TapeLang.CommandLine

inductive Exit where
  | code (code : Nat)
  /-- A failure that the command does not handle. -/
  | escaped (fault : Fault)

structure Result where
  exit : Exit
  output : TextSink := {}
  /-- What was printed beside the output. -/
  errors : String := ""
  /-- Input that was not read. -/
  unread : List UInt8
  journal : Array JournalEntry := #[]

def quit (input : List UInt8) (exit : Exit) (errors : String := "") : Result :=
  { exit, errors, unread := input }

def lines (texts : List String) : String := String.join (texts.map (· ++ "\n"))

/-- The text of a source file; undecodable bytes are replaced and line ends unified. -/
def decodeSource (content : List UInt8) : String :=
  String.ofList (Text.unifyNewlines (Text.Utf8.decodeReplacing content))

def sourceOf (files : FileTree) (options : Options) : Except Failure (String × String) :=
  if options.sourceMode then .ok (options.program, "<string>")
  else do
    let content ← files.readBytes options.program.toList
    pure (decodeSource content, options.program)

/-- Extensions that a command line names; a value that is missing fails in its turn. -/
def loadExtensions (files : FileTree) (extensions : List (Option String)) :
    Except Failure Services :=
  let given := (extensions.takeWhile Option.isSome).filterMap id
  let paths := given.map String.toList
  if given.length = extensions.length then Services.load files paths
  else do
    let _ ← ExtensionList.expand files paths
    .error .noValue

def Result.ofMachine (exit : Exit) (reports : List String)
    (m : Machine StreamReader TextSink) : Result :=
  { exit
    output := m.writer
    errors := lines (m.diagnostics.toList ++ reports)
    unread := m.reader.rest
    journal := m.journal }

def flushOutput (m : Machine StreamReader TextSink) : Machine StreamReader TextSink :=
  { m with writer := m.writer.flush }

/-- Reports of the error that stopped a machine, and the exit after them: a report that cannot be
written ends the command. -/
def reports (options : Options) (log : StepLog) (error : RunError) : List String × Exit :=
  match Report.write log error options.verbose with
  | .error failure => ([], .escaped (.failure failure))
  | .ok text =>
    if options.tracebackJson then
      match Report.json log error with
      | .error failure => ([text], .escaped (.failure failure))
      | .ok document => ([text, document], .code 1)
    else ([text], .code 1)

def machineFor (options : Options) (input : List UInt8) (program : Program) (services : Services)
    (codec : Codec) : Except Failure (Machine StreamReader TextSink) :=
  Machine.create program
    { rest := input, atEnd := if options.eofError then none else some (.int 0) }
    { codec, flushing := true } options.verbose services.hooks

/-- Runs a program; nothing if it takes more steps than `fuel` allows. -/
def runProgram (fuel : Nat) (options : Options) (input : List UInt8) (program : Program)
    (services : Services) : Option Result :=
  match options.codec with
  | none => some (quit input (.escaped (.failure .noValue)))
  | some codec =>
    match machineFor options input program services codec with
    | .error failure => some (quit input (.escaped (.failure failure)))
    | .ok m =>
      match m.run fuel with
      | .done m => some (.ofMachine (.code 0) [] (flushOutput m))
      | .stopped (.run error) m =>
        let (texts, exit) := reports options m.log error
        some (.ofMachine exit texts (flushOutput m))
      | .stopped (.failure failure) m => some (.ofMachine (.escaped (.failure failure)) [] m)
      | .exhausted => none

def dumpProgram (input : List UInt8) (program : Program) : Result :=
  match program.listing with
  | .ok listing =>
    { exit := .code 0
      output := { text := (Text.codePoints (lines [listing])).toArray }
      unread := input }
  | .error failure => quit input (.escaped (.failure failure))

def extendAndRun (fuel : Nat) (files : FileTree) (options : Options) (input : List UInt8)
    (program : Program) : Option Result :=
  match loadExtensions files options.extensions with
  | .error failure =>
    if failure.isExtension then
      match failure.message with
      | .ok message => some (quit input (.code 1) (lines [s!"ExtensionError: {message}"]))
      | .error why => some (quit input (.escaped (.failure (.unwritable why))))
    else some (quit input (.escaped (.failure failure)))
  | .ok services => runProgram fuel options input program services

def runOptions (fuel : Nat) (files : FileTree) (input : List UInt8) (options : Options) :
    Option Result :=
  match sourceOf files options with
  | .error (.file cause path) =>
    some (quit input (.code 1) (lines [s!"Failed to read {options.program}: {cause.message path}"]))
  | .error failure => some (quit input (.escaped (.failure failure)))
  | .ok (text, filename) =>
    match load text filename with
    | .error error => some (quit input (.code 1) (lines [s!"ParseError: {error.message}"]))
    | .ok program =>
      if options.dump then some (dumpProgram input program)
      else extendAndRun fuel files options input program

def run (fuel : Nat) (files : FileTree) (input : List UInt8) (arguments : List String) :
    Option Result :=
  match parse arguments with
  | .error .help => some (quit input (.code 0))
  | .error (.usage error) =>
    some (quit input (.code 2) (lines [s!"bflang: error: {error.message}"]))
  | .ok options => runOptions fuel files input options

end TapeLang.CommandLine
