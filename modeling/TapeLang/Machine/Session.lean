import TapeLang.Machine.Run
import TapeLang.Report.Json
import TapeLang.Report.Text

/-! Sessions: one machine, used again and again, and the error of the last run that failed. -/

set_option autoImplicit false

namespace TapeLang

structure Session (ρ ω : Type) where
  machine : Machine ρ ω
  /-- Hooks that the machine does not see, if it has a registry of its own. -/
  aside : Option HookRegistry := none
  error : Option RunError := none

namespace Session

variable {ρ ω : Type}

inductive Request (ρ : Type) where
  | run
  | hook (hook : Hook)
  | assign (assignment : Assignment)
  | history (history : Option Int)
  | program (program : Program)
  | reader (reader : ρ)
  | window (radius : Int)
  | entries
  | text (verbose : Bool)
  | json
  | summary

inductive Answer where
  | done
  | registered
  | window (window : Tape.Window)
  | entries (entries : List LogEntry)
  | text (text : String)

def extension : String := "t"

def withError (session : Session ρ ω) (report : StepLog → RunError → Except Failure String) :
    Except Fault Answer :=
  match session.error with
  | some error =>
    match report session.machine.log error with
    | .ok text => .ok (.text text)
    | .error failure => .error (.failure failure)
  | none => .error (.failure .noError)

/-- Registers a hook where the session's hooks go. -/
def register (session : Session ρ ω) (hook : Hook) : Except Failure (Session ρ ω) :=
  match session.aside with
  | some registry => do
    let registry ← registry.register extension hook
    pure { session with aside := some registry }
  | none => do
    let registry ← session.machine.hooks.register extension hook
    pure { session with machine := { session.machine with hooks := registry } }

def run [Reader ρ] [Writer ω] (fuel : Nat) (session : Session ρ ω) :
    Option (Except Fault Answer × Session ρ ω) :=
  match session with
  | ⟨machine, aside, error⟩ =>
    match machine.run fuel with
    | .done machine => some (.ok .done, ⟨machine, aside, error⟩)
    | .stopped (.run error) machine => some (.error (.run error), ⟨machine, aside, some error⟩)
    | .stopped (.failure failure) machine =>
      some (.error (.failure failure), ⟨machine, aside, error⟩)
    | .exhausted => none

def adjust (session : Session ρ ω) (change : Machine ρ ω → Machine ρ ω) :
    Except Fault Answer × Session ρ ω :=
  (.ok .done, { session with machine := change session.machine })

/-- Answers a request; nothing if a run takes more steps than `fuel` allows. -/
def handle [Reader ρ] [Writer ω] (fuel : Nat) (session : Session ρ ω) (request : Request ρ) :
    Option (Except Fault Answer × Session ρ ω) :=
  match request with
  | .run => session.run fuel
  | .hook hook =>
    match session.register hook with
    | .ok session => some (.ok .registered, session)
    | .error failure => some (.error (.failure failure), session)
  | .assign assignment =>
    match session.machine.assign assignment with
    | .done machine => some (.ok .done, { session with machine })
    | .stopped failure machine => some (.error (.failure failure), { session with machine })
    | .exhausted => none
  | .history history => some (session.adjust fun m => { m with history })
  | .program program => some (session.adjust fun m => { m with program })
  | .reader reader => some (session.adjust fun m => { m with reader })
  | .window radius => some (.ok (.window (session.machine.window radius)), session)
  | .entries => some (.ok (.entries session.machine.log.entries.toList), session)
  | .text verbose => some (session.withError (Report.write · · verbose), session)
  | .json => some (session.withError Report.json, session)
  | .summary =>
    some (.ok (.text (Trace.summary session.machine.tape.cells.toList)), session)

def clear (session : Session ρ ω) : Session ρ ω :=
  { session with machine := { session.machine with journal := #[], diagnostics := #[] } }

end Session

end TapeLang
