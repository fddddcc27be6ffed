import TapeLang.Machine.Step

/-! Runs of a machine, from a fresh start to its end or to the error that stops it. -/

set_option autoImplicit false

namespace TapeLang

/-- The error with the index of the last logged step, unless it has an index already. -/
def RunError.attachStep (error : RunError) (log : StepLog) : RunError :=
  { error with stepIndex := error.stepIndex <|> log.last?.map fun entry => (entry.stepIndex : Int) }

namespace Machine

variable {ρ ω : Type} [Reader ρ] [Writer ω]

def execute (gates : Gates) : Nat → Machine ρ ω → Outcome Fault (Machine ρ ω)
  | 0, _ => .exhausted
  | fuel + 1, m =>
    match m.pc with
    | none => .stopped (.failure .noCounter) m
    | some pc =>
      match m.program.fetch pc with
      | .finished => .done m
      | .outside => .stopped (.failure (.instructionIndex pc)) m
      | .instruction inst =>
        match m.step fuel gates inst with
        | .done m => execute gates fuel m
        | .stopped fault m => .stopped fault m
        | .exhausted => .exhausted

/-- The start of a run and all of its steps. Which hooks are heeded at each step is settled once the
start has been told. -/
def start (fuel : Nat) (m : Machine ρ ω) : Outcome Fault (Machine ρ ω) :=
  (m.emitEvent fuel .programStart [.program m.program.size]).next fun m =>
    execute m.hooks.gates fuel m

def raise (fuel : Nat) (error : RunError) (m : Machine ρ ω) : Outcome Fault (Machine ρ ω) :=
  let error := error.attachStep m.log
  (m.emitEvent fuel .onError [.error error]).next fun m => .stopped (.run error) m

/-- Ends a run that has started: a failure becomes an internal error at the present instruction, and
either the end or the error is told. -/
def conclude (fuel : Nat) : Outcome Fault (Machine ρ ω) → Outcome Fault (Machine ρ ω)
  | .done m => m.emitEvent fuel .programEnd []
  | .stopped (.run error) m => m.raise fuel error
  | .stopped (.failure failure) m =>
    match m.refuse (.internal failure) with
    | .run error => m.raise fuel error
    | .failure failure => .stopped (.failure failure) m
  | .exhausted => .exhausted

/-- A run of at most `fuel` steps, with as many calls of handlers at each point. -/
def run (fuel : Nat) (m : Machine ρ ω) : Outcome Fault (Machine ρ ω) :=
  match m.reset with
  | .error failure => .stopped (.failure failure) m.rewind
  | .ok m => conclude fuel (m.start fuel)

end Machine

end TapeLang
