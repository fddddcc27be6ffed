import TapeLang.Code.Listing
import TapeLang.Extension.Name
import TapeLang.Hook.Services
import TapeLang.Machine.Session
import TapeLang.Main
import TapeLang.Source.Loader
import TapeLang.Proofs.Hook.Actions
import TapeLang.Proofs.Hook.Calls
import TapeLang.Proofs.Log.Kept
import TapeLang.Proofs.Machine.Effect
import TapeLang.Proofs.Machine.Diagnostics
import TapeLang.Proofs.Machine.Faults
import TapeLang.Proofs.Machine.Observers
import TapeLang.Proofs.Log.Entries
import TapeLang.Proofs.Machine.Logged
import TapeLang.Proofs.Machine.Tour
import TapeLang.Proofs.Machine.Itinerary
import TapeLang.Proofs.Machine.Reports
import TapeLang.Proofs.Machine.Places
import TapeLang.Proofs.Machine.Afresh
import TapeLang.Proofs.Machine.Output
import TapeLang.Proofs.CommandLine.Commentary
import TapeLang.Proofs.Hook.Order
import TapeLang.Proofs.Hook.Rounds
import TapeLang.Proofs.Channel.Transcript
import TapeLang.Proofs.CommandLine.Extensions
import TapeLang.Proofs.CommandLine.Phases
import TapeLang.Proofs.Source.Concatenation
import TapeLang.Proofs.Machine.Endings
import TapeLang.Proofs.Machine.Latecomers
import TapeLang.Proofs.Source.Reloading
import TapeLang.Proofs.Structured.Walks
import TapeLang.Proofs.Hook.Registrations
import TapeLang.Proofs.Trace.Runs
import TapeLang.Proofs.Code.Listing
import TapeLang.Proofs.Json.Grammar
import TapeLang.Proofs.Json.Reading
import TapeLang.Proofs.Json.Printing
import TapeLang.Proofs.Report.Json
import TapeLang.Proofs.Report.Runs
import TapeLang.Proofs.Extension.Lines
import TapeLang.Proofs.Files.Paths
import TapeLang.Proofs.Text.Case
import TapeLang.Proofs.Text.Utf8
import TapeLang.Proofs.Extension.Gathering
import TapeLang.Proofs.Trace.Summaries
