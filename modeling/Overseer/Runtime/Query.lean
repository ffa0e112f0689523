-- SUMMARY: Read-only questions to the runtime: what is asked, how the answer is read, cancellation.
import Overseer.Runtime.Banner
import Overseer.Runtime.Container
import Overseer.Runtime.Host
import Overseer.Runtime.Pipes
import Overseer.Supervision.Verdict

/-!
# Queries

A query is an invocation that the client waits for itself. It reads both streams to their ends and waits
for the end of the runtime; its answer is the standard output of a run that ended well. A cancelled query
is given up before anything else is looked at, and its runtime is killed.
-/

namespace Overseer

/-- A question and the way its answer is read from standard output. -/
structure Query (α : Type) where
  args : List String
  decode : Bytes → Except Failure α

namespace Query

/-- Reads an answer that is a JSON document. -/
def document {α : Type} (context : String) (d : Json.Decoder α) (s : Bytes) : Except Failure α :=
  match d.ofText s with
  | .ok a => .ok a
  | .error why => .error (.json context why)

/-- Reads an answer that is a JSON list; `null` stands for the empty list. -/
def listDocument {α : Type} (context : String) (d : Json.Decoder α) (s : Bytes) :
    Except Failure (List α) :=
  match document context (.option (.list d)) s with
  | .ok found => .ok (found.getD [])
  | .error why => .error why

/-- All containers. -/
def list : Query (List Container) where
  args := ["list", "--format=json"]
  decode := listDocument "decode container list" Container.decoder

/-- One container. -/
def state (id : String) : Query Container where
  args := ["state", id]
  decode := document ("decode state of " ++ id) Container.decoder

/-- The processes in a container. -/
def processes (id : String) : Query (List Int32) where
  args := ["ps", "--format=json", id]
  decode := listDocument ("decode processes of " ++ id) .int32

def version : Query Version where
  args := ["--version"]
  decode s := .ok (Version.ofBanner s.lossyText)

/-- The answer that the result of a run stands for. -/
def answer {α : Type} (q : Query α) : Except Failure Bytes → Except Failure α
  | .ok stdout => q.decode stdout
  | .error why => .error why

/-! ## The course of a query -/

inductive Stage where
  | unstarted
  /-- About to look whether the query was cancelled. -/
  | looking
  /-- Attending to the runtime, the query not having been cancelled when that was looked at. -/
  | attending
  | finished (result : Except Failure Bytes)

/-- A query with its runtime. -/
structure State where
  program : String
  /-- Why the runtime cannot be started. -/
  obstacle : Option SystemError
  /-- How the runtime ends behind its last write; it may also wait for ever. -/
  ending : Option WaitStatus
  pipes : Pipes
  stage : Stage := .unstarted
  cancelled : Bool := false
  /-- What was read so far. -/
  stdout : Bytes := []
  stderr : Bytes := []
  /-- The end of the runtime, once it has ended. -/
  ended : Option WaitStatus := none
  /-- Whether the runtime was killed, its client having given up. -/
  killed : Bool := false

inductive Action where
  /-- The client's next step. -/
  | poll
  /-- The client reads some octets. -/
  | read (stream : OutStream) (count : Nat)
  /-- The client leaves off until something happens. -/
  | rest
  | cancel
  /-- The runtime writes as much as there is room for. -/
  | write
  /-- The runtime ends, which closes both pipes. -/
  | finish
  /-- The runtime dies of having been killed. -/
  | die
  deriving DecidableEq

/-- Whether the runtime can act. -/
def State.alive (s : State) : Bool :=
  match s.stage with
  | .unstarted => false
  | _ => s.obstacle.isNone && s.ended.isNone

/-- The client takes what it has read. -/
def State.take (s : State) (stream : OutStream) (count : Nat) : State :=
  let found := (s.pipes.held stream).take count
  let pipes := s.pipes.drop stream count
  match stream with
  | .stdout => { s with pipes, stdout := s.stdout ++ found }
  | .stderr => { s with pipes, stderr := s.stderr ++ found }

/-- The client's next step, unless it has to wait. The runtime is started in any case; cancellation is
    looked at before all else; and a runtime that nobody waits for any more is killed. -/
def poll? (s : State) : Option State :=
  match s.stage with
  | .unstarted => some { s with stage := .looking }
  | .looking =>
    if s.cancelled then some { s with stage := .finished (.error .cancelled), killed := s.alive }
    else some { s with stage := .attending }
  | .attending =>
    match s.obstacle, s.ended with
    | some why, _ => some { s with stage := .finished (.error (.start s.program why)) }
    | none, some status =>
      if s.pipes.isEmpty then
        some { s with
          stage := .finished (Verdict.ofOutput s.program status s.stdout s.stderr) }
      else none
    | none, none => none
  | .finished _ => none

/-- One step of one party, if it is possible. -/
def step? (s : State) : Action → Option State
  | .poll => poll? s
  | .read stream count =>
    match s.stage with
    | .attending =>
      if 0 < count ∧ count ≤ (s.pipes.held stream).length then some (s.take stream count) else none
    | _ => none
  | .rest =>
    match s.stage with
    | .attending => some { s with stage := .looking }
    | _ => none
  | .cancel => some { s with cancelled := true }
  | .write => if s.alive then s.pipes.write?.map fun pipes => { s with pipes } else none
  | .finish =>
    if s.alive && s.pipes.pending.isEmpty && s.ending.isSome then some { s with ended := s.ending }
    else none
  | .die =>
    if s.alive && s.killed then some { s with ended := some (.signalled Signal.kill.number) } else none

/-- The result of a query that has come to an end. -/
def State.result? (s : State) : Option (Except Failure Bytes) :=
  match s.stage with
  | .finished result => some result
  | _ => none

/-! ## A run against a given runtime -/

/-- The order in which the parties act: the client reads and ends as soon as it can, then the runtime
    goes on; a caller who waits until the runtime is ready cancels when nobody else can act. -/
def schedule (cancel : Supervision.CancelTime) (s : State) : Option Action :=
  match s.stage with
  | .finished _ => none
  | .unstarted => some (if cancel = .before ∧ !s.cancelled then .cancel else .poll)
  | .looking => some .poll
  | .attending =>
    if !s.pipes.stdout.isEmpty then some (.read .stdout s.pipes.stdout.length)
    else if !s.pipes.stderr.isEmpty then some (.read .stderr s.pipes.stderr.length)
    else if (poll? s).isSome then some .poll
    else if s.pipes.write?.isSome then some .write
    else if s.ending.isSome then some .finish
    else if cancel = .ready then some (if s.cancelled then .rest else .cancel)
    else none

/-- A query before anything has happened. -/
def start {α : Type} (q : Query α) (host : Host) (launcher : Launcher) (b : Behaviour) : State where
  program := launcher.program
  obstacle := host.obstacle? (launcher.command q.args)
  ending := b.process []
  pipes := { pending := b.output [] }

/-- The last state of a run. -/
def run (cancel : Supervision.CancelTime) (s : State) : State :=
  Transition.drive step? (schedule cancel) (s.pipes.debt + 8) s

/-- The answer to a query. A query that is never answered has none. -/
def ask? {α : Type} (q : Query α) (host : Host) (launcher : Launcher) (b : Behaviour)
    (cancel : Supervision.CancelTime) : Option (Except Failure α) :=
  (run cancel (q.start host launcher b)).result?.map q.answer

end Query

end Overseer
