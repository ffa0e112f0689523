import Overseer.Main
import Overseer.Runtime.Console
import Overseer.Runtime.ProcessSpec
import Overseer.Script.StandIn
import Overseer.Proofs.Json.Magnitude
import Overseer.Proofs.Json.Locality
import Overseer.Proofs.Json.Locality.Text
import Overseer.Proofs.Json.Locality.Numeral
import Overseer.Proofs.Json.Locality.Value
import Overseer.Proofs.Telemetry.Scan
import Overseer.Proofs.Telemetry.Session
import Overseer.Proofs.Telemetry.Arriving
import Overseer.Proofs.Supervision.Moves
import Overseer.Proofs.Supervision.Report
import Overseer.Proofs.Supervision.Fleet
import Overseer.Proofs.Supervision.Delivery
import Overseer.Proofs.Supervision.Requests
import Overseer.Proofs.Json.Outline
import Overseer.Proofs.Json.Outline.Reader
import Overseer.Proofs.Json.Exact
import Overseer.Proofs.Json.Depth
import Overseer.Proofs.Json.Impasse
import Overseer.Proofs.Json.Sorted
import Overseer.Proofs.Supervision.Verdict
import Overseer.Proofs.Telemetry.Channel
import Overseer.Proofs.Text.Utf8
import Overseer.Proofs.Json.Printed.Numeral
import Overseer.Proofs.Json.Printed.Text
import Overseer.Proofs.Json.Printed.Value
import Overseer.Proofs.Json.Printed.Braces
import Overseer.Proofs.Telemetry.Trail
import Overseer.Proofs.Telemetry.Format
import Overseer.Proofs.Telemetry.Inside
import Overseer.Proofs.Telemetry.Record
import Overseer.Proofs.Telemetry.Noise
import Overseer.Proofs.Telemetry.Fragments
import Overseer.Proofs.Runtime.Capture
import Overseer.Proofs.Runtime.Pipes
import Overseer.Proofs.Telemetry.Abandonment
import Overseer.Proofs.Json.Printed.Controls
import Overseer.Proofs.Json.Layout
import Overseer.Proofs.Json.Skipped
import Overseer.Proofs.Json.Agreement
import Overseer.Proofs.Json.Excerpt
import Overseer.Proofs.Json.Printed.Layout
import Overseer.Proofs.Runtime.Query
import Overseer.Proofs.Runtime.Query.Completion
import Overseer.Proofs.Telemetry.Clean
import Overseer.Proofs.Telemetry.Recovery
import Overseer.Proofs.CommandLine.EventLines
import Overseer.Proofs.Telemetry.Killing
import Overseer.Proofs.Telemetry.First
import Overseer.Proofs.Telemetry.OneShot
import Overseer.Proofs.Runtime.Usage
import Overseer.Proofs.Runtime.Usage.Standstill
import Overseer.Proofs.Runtime.Request
import Overseer.Proofs.CommandLine.Starts
import Overseer.Proofs.CommandLine.ExitCode
import Overseer.Proofs.CommandLine.Failures
import Overseer.Proofs.CommandLine.Targets
import Overseer.Proofs.Number.Literal
import Overseer.Proofs.CommandLine.KillSignal
import Overseer.Proofs.Text.Blank
import Overseer.Proofs.Runtime.Banner
import Overseer.Proofs.Runtime.Settings
import Overseer.Proofs.CommandLine.VersionText
import Overseer.Proofs.Telemetry.Failures
import Overseer.Proofs.Telemetry.Interruption
import Overseer.Proofs.Supervision.Ending
import Overseer.Proofs.Supervision.Handover
import Overseer.Proofs.Runtime.Globals
import Overseer.Proofs.Json.Edits
import Overseer.Proofs.Telemetry.Edits
import Overseer.Proofs.Json.Nulls
import Overseer.Proofs.Telemetry.Nulls
import Overseer.Proofs.Calendar.Date
import Overseer.Proofs.Calendar.Moment
import Overseer.Proofs.CommandLine.ContainerList
import Overseer.Proofs.Telemetry.Progress
import Overseer.Proofs.Supervision.SignalText
import Overseer.Proofs.Runtime.PidFile
