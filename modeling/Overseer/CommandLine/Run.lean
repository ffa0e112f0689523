-- SUMMARY: Running an invocation against a world.
import Overseer.CommandLine.Log
import Overseer.CommandLine.Table
import Overseer.CommandLine.Targets

/-!
# Running

Every command makes its client first, except that the version of the program is printed in any case.
What a runtime prints that shares the streams of the program comes before anything that the program has
to say about its end.

Of the log, standard error holds the warnings about skipped noise alone. The lines of level debug, which
`-v` and the environment can ask for, and the warning about an event process that has come to a bad end are
left out, so what is said of standard error holds where these are not shown.
-/

namespace Overseer.CommandLine

open Json (Value)

/-- What is the same for all commands of one call. -/
structure Context where
  /-- How files are read. -/
  file : String → Except SystemError Bytes
  filter : Log.Filter
  look : Log.Look
  /-- The time as log lines show it. -/
  time : String

/-! ## What is printed -/

/-- The cells of a container in the list. -/
def containerRow (c : Container) : Table.Row :=
  [c.id, toString c.pid.toInt, c.status.name, c.bundle, c.created.plainText]

def containerTable (cs : List Container) : String :=
  Table.text (["ID", "PID", "STATUS", "BUNDLE", "CREATED"] :: cs.map containerRow)

/-- A text in lines of its own. -/
def lines (texts : List String) : String := String.join (texts.map (· ++ "\n"))

def listText (format : ListFormat) (quiet : Bool) (cs : List Container) : String :=
  if quiet then lines (cs.map (·.id))
  else
    match format with
    | .json => lines [(Value.array (cs.map (·.encode))).prettyText]
    | .table => lines [containerTable cs]

def processText (json : Bool) (pids : List Int32) : String :=
  if json then lines [(Value.array (pids.map fun p => .int p.toInt)).text]
  else lines (pids.map fun p => toString p.toInt)

/-- The version of the runtime that `command` stands for. -/
def versionText (command : String) (v : Version) : String :=
  if v.runtime.isEmpty then lines [command ++ ": unrecognized version banner"]
  else
    lines ([command ++ " version " ++ v.runtime]
      ++ (if v.commit.isEmpty then [] else ["commit: " ++ v.commit])
      ++ (if v.spec.isEmpty then [] else ["spec: " ++ v.spec]))

def eventText (events : List Telemetry.Event) : String := lines (events.map (·.line))

/-- A signal as the kill command passes it on: a number as a number, everything else as it is. -/
def killOperation (id signal : String) (all : Bool) : Operation :=
  match Literal.int32? signal with
  | some n => .kill id n { all }
  | none => .kill id 0 { all, rawSignal := some signal }

/-! ## Commands -/

/-- The ending of a command that asks the runtime one thing. -/
def askAndPrint {α : Type} (w : World) (client : Client) (q : Query α) (print : α → String) :
    Option Ending × World :=
  let (answer, w) := w.ask client q
  (answer.map (Ending.ofResult print), w)

/-- The ending behind an operation that shares its streams with the runtime as `wiring` says. -/
def performanceEnding (wiring : Wiring) (p : Client.Performance) : Ending where
  stdout := wiring.reaching .inherited .stdout p.writes
  stderr := wiring.reaching .inherited .stderr p.writes
  problem :=
    match p.result with
    | .ok _ => none
    | .error f => some (.failure f)

/-- The ending of a command that performs one operation. -/
def performAndPrint (w : World) (client : Client) (wiring : Wiring) (op : Operation) :
    Option Ending × World :=
  let (p, w) := w.perform client wiring op
  (p.map (performanceEnding wiring), w)

/-- The ending behind a stream of events, which were printed as they came while what was skipped was logged. -/
def watchEnding (x : Context) (id : String) : Except Failure Telemetry.Watch.State → Ending
  | .error f => .failing f
  | .ok s => {
      stdout := .ofString (eventText s.pump.received)
      stderr := .ofString (Log.noiseText x.filter x.look x.time id s.pump.skipped) }

/-- The ending of a command that prints the events of a container. -/
def watchAndPrint (x : Context) (w : World) (client : Client) (id : String) (interval : Interval) :
    Option Ending × World :=
  let (found, w) := w.watch client id interval
  (found.map (watchEnding x id), w)

/-- Runs a command that is no request for the version with a client. A command whose runtime waits for
    ever has no ending. -/
def runWith (x : Context) (w : World) (client : Client) : Action → Option Ending × World
  | .state id =>
    askAndPrint w client (.state id) fun c => lines [c.encode.prettyText]
  | .list format quiet => askAndPrint w client .list (listText format quiet)
  | .processes id json => askAndPrint w client (.processes id) (processText json)
  | .version => askAndPrint w client .version (versionText client.settings.command)
  | .events id interval => watchAndPrint x w client id (.ofSeconds interval)
  | .stats id =>
    let (answer, skipped, w) := w.usage client id
    (answer.map fun result =>
      { Ending.ofResult (fun s => lines [s.encode.prettyText]) result with
        stderr := .ofString (Log.noiseText x.filter x.look x.time id skipped) }, w)
  | .kill id signal all => performAndPrint w client {} (killOperation id signal all)
  | .run id bundle flags => performAndPrint w client (.all .inherited) (.run id bundle flags)
  | .delete targets force =>
    let (attempts, w) := Attempt.all w client (fun id => .delete id { force }) targets
    (attempts.map deleteEnding, w)
  | .lifecycle which targets =>
    let (attempts, w) := Attempt.all w client which.operation targets
    (attempts.map which.ending, w)

/-- What is printed before the client is made. -/
def preface : Action → String
  | .version => lines [programName ++ " version " ++ programVersion]
  | _ => ""

/-- Runs an invocation. -/
def Invocation.run (x : Context) (w : World) (i : Invocation) : Option Ending × World :=
  let made : Except Failure Client :=
    match i.flags.settings x.file with
    | .error f => .error f
    | .ok settings => Client.ofSettings settings
  match made with
  | .error f => (some ((Ending.failing f).after (preface i.action)), w)
  | .ok client =>
    let (ending, w) := runWith x w client i.action
    (ending.map (Ending.after (preface i.action)), w)

/-- A whole call of the program: its outcome, unless it never ends, and the world afterwards. -/
def call (env : String → Option String) (file : String → Except SystemError Bytes)
    (time : String) (w : World) (args : List String) : Option Outcome × World :=
  match Invocation.ofArgs env args with
  | .error stop => (some (.ofStop stop), w)
  | .ok i =>
    let filter := Log.Filter.choose (env "RUST_LOG") i.flags.verbose
    let look := Log.Look.choose (env "NO_COLOR")
    let (ending, w) := i.run { file, filter, look, time } w
    (ending.map .ofEnding, w)

end Overseer.CommandLine
