import TapeLang.Decimal.Spelling
import TapeLang.Text.Quoted

/-! What can go wrong, apart from a program that cannot be loaded and a run that is stopped.

Each failure is given by its cause. `Failure.name` is the kind of failure that reports show and
`Failure.message` is its wording, if it can be put into words. -/

set_option autoImplicit false

namespace TapeLang

inductive RaisedKind where
  | value
  | system
  | general
  | endOfFile
  | type
  | extension
  | language
  | run
  | parse
  deriving DecidableEq, Repr

def RaisedKind.name : RaisedKind → String
  | value => "ValueError"
  | system => "OSError"
  | general => "RuntimeError"
  | endOfFile => "EOFError"
  | type => "TypeError"
  | extension => "BFExtensionError"
  | language => "BFError"
  | run => "BFRuntimeError"
  | parse => "BFParseError"

def RaisedKind.ofName? (name : String) : Option RaisedKind :=
  [value, system, general, endOfFile, type, extension, language, run, parse].find? (·.name == name)

inductive FileFailure where
  | missing
  | isDirectory
  | notDirectory
  | nameTooLong
  deriving DecidableEq, Repr

def FileFailure.name : FileFailure → String
  | missing => "FileNotFoundError"
  | isDirectory => "IsADirectoryError"
  | notDirectory => "NotADirectoryError"
  | nameTooLong => "OSError"

def FileFailure.text : FileFailure → String
  | missing => "[Errno 2] No such file or directory"
  | isDirectory => "[Errno 21] Is a directory"
  | notDirectory => "[Errno 20] Not a directory"
  | nameTooLong => "[Errno 36] File name too long"

def FileFailure.message (cause : FileFailure) (path : String) : String :=
  s!"{cause.text}: {Text.quoted path}"

inductive Failure where
  /-- Asked for by a handler, a reader, a writer or an extension. -/
  | raised (kind : RaisedKind) (message : String)
  /-- Of a kind that is not known here, with its name. -/
  | foreign (name message : String)
  /-- Asked for with a value that cannot be written out, by the name of its kind. -/
  | unworded (name : String) (why : Unwritable)
  /-- A value was to be written out. -/
  | unwritable (why : Unwritable)
  | endOfInput
  | scriptExhausted
  /-- A character that does not fit in one byte. -/
  | notLatin
  /-- Bytes that are not UTF-8. -/
  | undecodable
  | unknownCodec (name : String)
  | noCharacter (code : Int)
  /-- An index beyond both ends of the tape. -/
  | tapeIndex (index : Int)
  | cellValue (value : Int)
  /-- An index before the first instruction. -/
  | instructionIndex (index : Int)
  | textIndex
  /-- The program counter holds no number. -/
  | noCounter
  /-- A name that stands for nothing: an operation without a character, or no kind of failure. -/
  | unknownName (name : String)
  | historySize (size : Int)
  /-- A handler that was called without a machine uses it. -/
  | noMachine
  /-- A report is asked for before any run has failed. -/
  | noError
  | unknownEvent (name : String)
  | badPeriod
  | listMissing (path : String)
  | extensionMissing (path : String)
  | notLoadable (path : String)
  | apiMismatch (path api : String)
  | noRegister (path : String)
  | siblingMissing (name : String)
  | file (cause : FileFailure) (path : String)
  /-- A path that holds a null character. -/
  | nullInPath
  /-- An option whose value is only the separator. -/
  | noValue
  deriving DecidableEq, Repr

namespace Failure

def wordBound : Int := 0x8000000000000000

def halfWordBound : Int := 0x80000000

def fitsWord (n : Int) : Bool := -wordBound ≤ n && n < wordBound

def fitsHalfWord (n : Int) : Bool := -halfWordBound ≤ n && n < halfWordBound

def name : Failure → String
  | raised kind _ => kind.name
  | foreign name _ | unworded name _ => name
  | unwritable .tooManyDigits => "ValueError"
  | unwritable .tooDeep => "RecursionError"
  | endOfInput | scriptExhausted => "EOFError"
  | notLatin => "UnicodeEncodeError"
  | undecodable => "UnicodeDecodeError"
  | unknownCodec _ => "ValueError"
  | noCharacter code => if fitsHalfWord code then "ValueError" else "OverflowError"
  | tapeIndex index =>
    if wordBound ≤ index && index < 2 * wordBound then "OverflowError" else "IndexError"
  | cellValue _ => "OverflowError"
  | instructionIndex _ | textIndex => "IndexError"
  | noCounter => "TypeError"
  | unknownName _ => "KeyError"
  | historySize size => if fitsWord size then "ValueError" else "OverflowError"
  | noMachine | noError | noValue => "AttributeError"
  | unknownEvent _ | badPeriod | listMissing _ | extensionMissing _ | notLoadable _
  | apiMismatch _ _ | noRegister _ => "BFExtensionError"
  | siblingMissing _ => "ModuleNotFoundError"
  | file cause _ => cause.name
  | nullInPath => "ValueError"

/-- What a failure says, if it can be put into words. -/
def message : Failure → Except Unwritable String
  | raised _ message | foreign _ message => .ok message
  | unworded _ why => .error why
  | unwritable .tooManyDigits =>
    .ok ("Exceeds the limit (4300 digits) for integer string conversion; " ++
      "use sys.set_int_max_str_digits() to increase the limit")
  | unwritable .tooDeep =>
    .ok "maximum recursion depth exceeded while getting the repr of an object"
  | endOfInput => .ok "end of input"
  | scriptExhausted => .ok "script exhausted"
  | notLatin => .ok "ordinal not in range(256)"
  | undecodable => .ok "invalid start byte"
  | unknownCodec name => .ok s!"Unknown output codec '{name}' (expected one of: ascii, int)"
  | noCharacter code =>
    .ok (if fitsHalfWord code then "chr() arg not in range(0x110000)"
      else "Python int too large to convert to C int")
  | tapeIndex index =>
    .ok (if fitsWord index then s!"index {index} is out of bounds for axis 0 with size 30000"
      else if 0 ≤ index && index < 2 * wordBound then
        "Python int too large to convert to C long"
      else "only integers, slices (\x60:\x60), ellipsis (\x60...\x60), " ++
        "numpy.newaxis (\x60None\x60) and integer or boolean arrays are valid indices")
  | cellValue value =>
    .ok (if fitsWord value then s!"Python integer {value} out of bounds for uint8"
      else "Python int too large to convert to C long")
  | instructionIndex index =>
    .ok (if fitsWord index then "tuple index out of range"
      else "cannot fit 'int' into an index-sized integer")
  | textIndex => .ok "string index out of range"
  | noCounter => .ok "the program counter is not a number"
  | unknownName name => .ok (Text.quoted name)
  | historySize size =>
    .ok (if fitsWord size then "maxlen must be non-negative"
      else "Python int too large to convert to C ssize_t")
  | noMachine => .ok "the handler has no machine"
  | noError => .ok "no run has failed"
  | unknownEvent name => .ok (s!"Unknown event '{name}' (expected one of: program_start, " ++
      "before_step, program_end, on_error)")
  | badPeriod => .ok "every_n_steps must be >= 1"
  | listMissing path => .ok s!".bfx file not found: {path}"
  | extensionMissing path => .ok s!"Extension not found: {path}"
  | notLoadable path => .ok s!"Failed to load extension module: {path}"
  | apiMismatch path api => .ok s!"Extension {path} requires API {api}, host supports 1"
  | noRegister path => .ok s!"Extension {path} must define callable bf_lang_register(ext)"
  | siblingMissing name => .ok s!"No module named {Text.quoted name}"
  | file cause path => .ok (cause.message path)
  | nullInPath => .ok "embedded null byte"
  | noValue => .ok "the option has no value"

def isExtension (failure : Failure) : Bool := failure.name == "BFExtensionError"

/-- What cannot be written out makes whatever needs it fail. -/
def ofWriting {α : Type} : Except Unwritable α → Except Failure α
  | .ok x => .ok x
  | .error why => .error (.unwritable why)

end Failure

end TapeLang
