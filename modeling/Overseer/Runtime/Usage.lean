-- SUMMARY: One-shot resource usage: the first event of a runtime that writes into two pipes.
import Overseer.Runtime.Host
import Overseer.Runtime.Pipes
import Overseer.Supervision.Verdict
import Overseer.Telemetry.First

/-!
# Usage

The client starts the runtime and reads its standard output up to the first event, which answers the
question even if the runtime goes on or fails later. If there is none, standard error is collected and
the end of the runtime decides what went wrong. Both streams are pipes of fixed capacity, and a write
into a full pipe waits for room.
-/

namespace Overseer.Usage

open Telemetry (Stats Intake Noise)

/-- The most octets that one read delivers. -/
def readSize : Nat := 8192

inductive Stage where
  /-- Reading standard output up to the first event. -/
  | watching (intake : Intake)
  /-- Standard output has ended without an event; reading standard error. -/
  | collecting
  | finished (result : Except Failure Stats)

structure State where
  program : String
  id : String
  stage : Stage := .watching {}
  cancelled : Bool := false
  pipes : Pipes
  /-- Standard error as far as it was read. -/
  complaint : Bytes := []
  /-- How the runtime ends behind its last write; it may also wait for ever. -/
  ending : Option WaitStatus
  ended : Bool := false
  /-- What was skipped on the way to the first event. -/
  skipped : List Noise := []

inductive Action where
  /-- The client's next step. -/
  | poll
  | cancel
  /-- The runtime writes as much as there is room for. -/
  | write
  /-- The runtime ends, which closes both pipes. -/
  | finish

/-- What the arguments of the invocation are. -/
def args (id : String) : List String := ["events", "--stats", id]

/-- The failure of a runtime that ended well and gave no event. -/
def nothingReported (program id : String) : Failure :=
  .internal (program ++ " reported no stats for " ++ id)

/-- The client goes on reading, or has found an event. -/
def absorb (s : State) (i : Intake) (onward : Intake → Stage) : State :=
  match i.nextEvent s.skipped with
  | (some e, skipped, _) => { s with skipped, stage := .finished (.ok (e.data.getD {})) }
  | (none, skipped, j) => { s with skipped, stage := onward j }

/-- The client's next step, unless it has to wait. -/
def poll? (s : State) : Option State :=
  match s.stage with
  | .finished _ => none
  | .watching i =>
    if s.cancelled then some { s with stage := .finished (.error .cancelled) }
    else if !s.pipes.stdout.isEmpty then
      some (absorb { s with pipes := s.pipes.drop .stdout readSize }
        (i.feed (s.pipes.stdout.take readSize)) .watching)
    else if s.ended then some (absorb s i.finish fun _ => .collecting)
    else none
  | .collecting =>
    if s.cancelled then some { s with stage := .finished (.error .cancelled) }
    else if !s.pipes.stderr.isEmpty then
      some { s with
        complaint := s.complaint ++ s.pipes.stderr
        pipes := s.pipes.drop .stderr s.pipes.stderr.length }
    else
      match s.ended, s.ending with
      | true, some status =>
        let result : Except Failure Stats :=
          match Verdict.ofOutput s.program status [] s.complaint with
          | .ok _ => .error (nothingReported s.program s.id)
          | .error why => .error why
        some { s with stage := .finished result }
      | _, _ => none

/-- One step of one party, if it is possible. -/
def step? (s : State) : Action → Option State
  | .poll => poll? s
  | .cancel => some { s with cancelled := true }
  | .write => s.pipes.write?.map fun pipes => { s with pipes }
  | .finish =>
    if s.pipes.pending.isEmpty && !s.ended && s.ending.isSome then some { s with ended := true } else none

/-- The result of a client that is done. -/
def State.result? (s : State) : Option (Except Failure Stats) :=
  match s.stage with
  | .finished result => some result
  | _ => none

/-! ## A run against a given runtime -/

/-- The order in which the parties act: the client as soon as it can, then the runtime; a caller who
    waits until the runtime is ready cancels when it waits. -/
def schedule (cancel : Supervision.CancelTime) (s : State) : Option Action :=
  if s.result?.isSome then none
  else if cancel = .before ∧ !s.cancelled then some .cancel
  else if (poll? s).isSome then some .poll
  else if s.pipes.write?.isSome then some .write
  else if (step? s .finish).isSome then some .finish
  else if cancel = .ready ∧ s.pipes.pending.isEmpty ∧ !s.cancelled then some .cancel
  else none

/-- The state of a client that has just started the runtime. -/
def start (program id : String) (b : Behaviour) : State where
  program := program
  id := id
  pipes := { pending := b.output [] }
  ending := b.process []

/-- The last state of a run. -/
def run (program id : String) (b : Behaviour) (cancel : Supervision.CancelTime) : State :=
  let total := ((b.output []).flatMap (·.octets)).length
  let limit := 8 * ((b.output []).length + total / readSize + 8)
  Transition.drive step? (schedule cancel) limit (start program id b)

/-- What a question about the usage of a container brings, with what was skipped on the way. A question
    that is never answered has no result. -/
def ask? (id : String) (host : Host) (launcher : Launcher) (b : Behaviour)
    (cancel : Supervision.CancelTime) : Option (Except Failure Stats) × List Noise :=
  match host.obstacle? (launcher.command (args id)) with
  | some why => (some (.error (.start launcher.program why)), [])
  | none =>
    let s := run launcher.program id b cancel
    (s.result?, s.skipped)

end Overseer.Usage
