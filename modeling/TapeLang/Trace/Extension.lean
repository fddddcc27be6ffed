import TapeLang.Decimal.Numeral
import TapeLang.Extension.Module

/-! The trace extension: a line for each step whose index is a multiple of a period, and one line
with a summary of the tape when the run ends. -/

set_option autoImplicit false

namespace TapeLang.Trace

def defaultPeriod : Int := 1000

/-- The period that a setting asks for: the default if it is no number, and never less than one. -/
def period (setting : Option String) : Int :=
  max 1 (((setting.getD (toString defaultPeriod) |> Decimal.parse?)).getD defaultPeriod)

def metadata : Metadata := { name := "trace", version := "0.1.0" }

def hooks (every : Int) : List Hook :=
  [.rule "_trace_step" "trace_step" every .decorator [.mk none (.trace .step)],
    .event "_on_end" Event.programEnd.name 0 .decorator [.mk none (.trace .finished)],
    .event "_on_error" Event.onError.name 0 .decorator [.mk none (.trace .failed)]]

def extension (every : Int) : ExtensionModule :=
  { api := some (.int apiVersion)
    name := some (.text "trace")
    calls := .describe metadata :: (hooks every).map .hook }

end TapeLang.Trace
