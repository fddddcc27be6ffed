import TapeLang.Channel.Codec
import TapeLang.Text.Digit
import TapeLang.Text.Quoted
import TapeLang.Text.Split

/-! Options of the command line.

An argument that starts with a hyphen is an option, unless it is a lone hyphen or a negative number,
or holds a blank and is no option's spelling. A spelling may be shortened as long as it stays
unique, and a value may follow it in the same argument. -/

set_option autoImplicit false

namespace TapeLang.CommandLine

inductive Flag where
  | help
  | codec
  | source
  | dump
  | verbose
  | tracebackJson
  | eofError
  | extension
  deriving DecidableEq, Repr

namespace Flag

def all : List Flag := [help, codec, source, dump, verbose, tracebackJson, eofError, extension]

def spellings : Flag → List String
  | help => ["-h", "--help"]
  | codec => ["-c", "--codec"]
  | source => ["-source", "--source"]
  | dump => ["--dump"]
  | verbose => ["-verbose", "--verbose"]
  | tracebackJson => ["--traceback-json"]
  | eofError => ["--eof-error"]
  | extension => ["-ext", "--ext"]

def takesValue : Flag → Bool
  | codec | extension => true
  | _ => false

def title (flag : Flag) : String := "/".intercalate flag.spellings

end Flag

/-- Spellings with their options, in the order in which messages list them. -/
def spellings : List (List Char × Flag) :=
  Flag.all.flatMap fun flag => flag.spellings.map fun spelling => (spelling.toList, flag)

def flagOf? (spelling : List Char) : Option Flag :=
  (spellings.find? (·.1 == spelling)).map (·.2)

inductive UsageError where
  | ambiguous (argument : String) (candidates : List String)
  | ignoredValue (flag : Flag) (value : String)
  | expectedValue (flag : Flag)
  | invalidCodec (value : String)
  | missingProgram
  | unrecognized (arguments : List String)
  deriving DecidableEq, Repr

def UsageError.message : UsageError → String
  | ambiguous argument candidates =>
    s!"ambiguous option: {argument} could match " ++ ", ".intercalate candidates
  | ignoredValue flag value =>
    s!"argument {flag.title}: ignored explicit argument {Text.quoted value}"
  | expectedValue flag => s!"argument {flag.title}: expected one argument"
  | invalidCodec value =>
    s!"argument {Flag.codec.title}: invalid choice: {Text.quoted value} " ++
      "(choose from 'ascii', 'int')"
  | missingProgram => "the following arguments are required: program"
  | unrecognized arguments => "unrecognized arguments: " ++ " ".intercalate arguments

/-- An option that an argument spells, and the value that follows it in the same argument. -/
structure Spelled where
  flag : Flag
  spelling : List Char
  value : Option (List Char) := none

inductive Word where
  | plain (text : String)
  /-- Two hyphens alone; nothing after them is an option. -/
  | separator
  /-- An option, or what looks like one. -/
  | option (written : String) (spelled : Option Spelled)

/-- A hyphen and decimal digits, perhaps with a point before the last of them. -/
def isNegativeNumber : List Char → Bool
  | '-' :: rest =>
    let digits := if rest.getLast? = some '\n' then rest.dropLast else rest
    let isDigit := fun c => (Text.digit? c).isSome
    match digits.dropWhile isDigit with
    | [] => !digits.isEmpty
    | '.' :: fraction => !fraction.isEmpty && fraction.all isDigit
    | _ => false
  | _ => false

def candidates (argument : List Char) : List Spelled :=
  if ['-', '-'].isPrefixOf argument then
    let head := Text.before '=' argument
    let value := match argument.drop head.length with
      | [] => none
      | _ :: value => some value
    spellings.filterMap fun (spelling, flag) =>
      if head.isPrefixOf spelling then some ⟨flag, spelling, value⟩ else none
  else
    spellings.filterMap fun (spelling, flag) =>
      if spelling = argument.take 2 then some ⟨flag, spelling, some (argument.drop 2)⟩
      else if argument.isPrefixOf spelling then some ⟨flag, spelling, none⟩
      else none

def spelledOut? (argument : List Char) : Option Spelled :=
  match flagOf? argument with
  | some flag => some ⟨flag, argument, none⟩
  | none =>
    let head := Text.before '=' argument
    match argument.drop head.length with
    | [] => none
    | _ :: value => (flagOf? head).map fun flag => ⟨flag, head, some value⟩

def classify (argument : String) : Except UsageError Word :=
  let cs := argument.toList
  match cs with
  | '-' :: _ :: _ =>
    match spelledOut? cs with
    | some spelled => .ok (.option argument (some spelled))
    | none =>
      match candidates cs with
      | [spelled] => .ok (.option argument (some spelled))
      | [] =>
        if isNegativeNumber cs || cs.contains ' ' then .ok (.plain argument)
        else .ok (.option argument none)
      | several => .error (.ambiguous argument (several.map fun s => String.ofList s.spelling))
  | _ => .ok (.plain argument)

def classifyAll : List String → Except UsageError (List Word)
  | [] => .ok []
  | argument :: rest =>
    if argument = "--" then .ok (.separator :: rest.map .plain)
    else do
      let word ← classify argument
      let words ← classifyAll rest
      pure (word :: words)

structure Settings where
  /-- Nothing if the value was only the separator. -/
  codec : Option Codec := some .ascii
  sourceMode : Bool := false
  dump : Bool := false
  verbose : Bool := false
  tracebackJson : Bool := false
  eofError : Bool := false
  extensions : List (Option String) := []
  deriving DecidableEq, Repr

structure Options extends Settings where
  /-- The name of a source file, or a source text. -/
  program : String
  deriving DecidableEq, Repr

def codecOf (value : String) : Except UsageError Codec :=
  match Text.lower value with
  | "ascii" => .ok .ascii
  | "int" => .ok .int
  | lowered => .error (.invalidCodec lowered)

/-- Heeds an option; the value of an option that takes none does not matter. -/
def Settings.set (settings : Settings) (flag : Flag) (value : Option String) :
    Except UsageError Settings :=
  match flag with
  | .help => .ok settings
  | .codec =>
    match value with
    | none => .ok { settings with codec := none }
    | some value => do
      let codec ← codecOf value
      pure { settings with codec := some codec }
  | .source => .ok { settings with sourceMode := true }
  | .dump => .ok { settings with dump := true }
  | .verbose => .ok { settings with verbose := true }
  | .tracebackJson => .ok { settings with tracebackJson := true }
  | .eofError => .ok { settings with eofError := true }
  | .extension => .ok { settings with extensions := settings.extensions ++ [value] }

/-- Options with their values, and an option that may still take the next argument as its value. -/
structure Cluster where
  given : List (Flag × Option String)
  last : Option Flag

/-- A value that is only the separator counts as none. -/
def valueOf (value : List Char) : Option String :=
  if value = ['-', '-'] then none else some (String.ofList value)

/-- Options that one argument holds: what follows a one-hyphen option without a value is read as
options of one letter. -/
def cluster (flag : Flag) (spelling : List Char) : List Char → Except UsageError Cluster
  | [] =>
    if flag.takesValue then .ok ⟨[(flag, valueOf [])], none⟩ else .error (.ignoredValue flag "")
  | c :: rest =>
    if flag.takesValue then .ok ⟨[(flag, valueOf (c :: rest))], none⟩
    else if ['-', '-'].isPrefixOf spelling then
      .error (.ignoredValue flag (String.ofList (c :: rest)))
    else
      match flagOf? ['-', c] with
      | none => .error (.ignoredValue flag (String.ofList (c :: rest)))
      | some next =>
        if rest.isEmpty then .ok ⟨[(flag, none)], some next⟩
        else do
          let others ← cluster next ['-', c] rest
          pure ⟨(flag, none) :: others.given, others.last⟩

def Spelled.cluster (spelled : Spelled) : Except UsageError Cluster :=
  match spelled.value with
  | none => .ok ⟨[], some spelled.flag⟩
  | some value => CommandLine.cluster spelled.flag spelled.spelling value

structure Draft where
  settings : Settings := {}
  program : Option String := none
  extras : List String := []

inductive Ending where
  | help
  | usage (error : UsageError)

def Draft.heed (draft : Draft) : List (Flag × Option String) → Except Ending Draft
  | [] => .ok draft
  | (.help, _) :: _ => .error .help
  | (flag, value) :: rest =>
    match draft.settings.set flag value with
    | .ok settings => { draft with settings }.heed rest
    | .error error => .error (.usage error)

def Draft.extra (draft : Draft) (argument : String) : Draft :=
  { draft with extras := draft.extras ++ [argument] }

/-- Reads words in order. A separator next to the program belongs to it. -/
def Draft.read (draft : Draft) : List Word → Except Ending Draft
  | [] => .ok draft
  | .plain text :: rest =>
    match draft.program with
    | some _ => (draft.extra text).read rest
    | none =>
      match rest with
      | .separator :: rest => { draft with program := some text }.read rest
      | rest => { draft with program := some text }.read rest
  | .separator :: rest =>
    match draft.program with
    | some _ => (draft.extra "--").read rest
    | none => draft.read rest
  | .option written none :: rest => (draft.extra written).read rest
  | .option _ (some spelled) :: rest =>
    match spelled.cluster with
    | .error error => .error (.usage error)
    | .ok ⟨given, none⟩ =>
      match draft.heed given with
      | .error ending => .error ending
      | .ok draft => draft.read rest
    | .ok ⟨given, some flag⟩ =>
      if flag.takesValue then
        match rest with
        | .plain value :: rest =>
          match draft.heed (given ++ [(flag, some value)]) with
          | .error ending => .error ending
          | .ok draft => draft.read rest
        | _ => .error (.usage (.expectedValue flag))
      else
        match draft.heed (given ++ [(flag, none)]) with
        | .error ending => .error ending
        | .ok draft => draft.read rest

def Draft.finish (draft : Draft) : Except Ending Options :=
  match draft.program with
  | none => .error (.usage .missingProgram)
  | some program =>
    if draft.extras.isEmpty then .ok { draft.settings with program }
    else .error (.usage (.unrecognized draft.extras))

def parse (arguments : List String) : Except Ending Options :=
  match classifyAll arguments with
  | .error error => .error (.usage error)
  | .ok words =>
    match ({} : Draft).read words with
    | .error ending => .error ending
    | .ok draft => draft.finish

end TapeLang.CommandLine
