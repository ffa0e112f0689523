-- SUMMARY: Collecting the output of a supervised invocation while others may hold its pipe open.
import Overseer.Text.Utf8
import Overseer.Transition

/-!
# Capture

A reader collects what comes out of a pipe until every writer has closed it. Processes that the runtime
leaves behind may keep it open, so some time after the end of the runtime was reported the reader is
told to stop: from then on it takes what is already in the pipe and waits for nothing more. It always
looks for octets before it looks whether it has to stop; these are two steps, between which others may
act and any time may go by. What was collected when a read fails is returned like any other end.
-/

namespace Overseer.Capture

/-- The most octets that one read delivers. -/
def readSize : Nat := 4096

/-- Milliseconds between the report of the end and the request to stop. -/
def grace : Nat := 250

structure State where
  /-- Written and not read yet. -/
  pipe : Bytes := []
  /-- Everything that was ever written to the pipe. -/
  written : Bytes := []
  /-- How much had been written when the runtime ended. -/
  exitMark : Option Nat := none
  /-- Whether another process holds the pipe open. -/
  held : Bool := false
  /-- Whether the end of the runtime was reported, and how long ago in milliseconds. -/
  reported : Option Nat := none
  stopRequested : Bool := false
  /-- How many milliseconds ago the reader found nothing to read, unless it has looked since whether it has
      to stop. -/
  looked : Option Nat := none
  collected : Bytes := []
  /-- Whether the reader has finished. -/
  finished : Bool := false
  /-- Whether it has because a read failed. -/
  failed : Bool := false
  /-- What the capture returned. -/
  result : Option Bytes := none
  deriving DecidableEq, Repr

inductive Action where
  /-- The runtime writes. -/
  | write (octets : Bytes)
  /-- The runtime hands the pipe to another process. -/
  | handOver
  /-- The other process writes. -/
  | writeBehind (octets : Bytes)
  /-- The other process closes the pipe. -/
  | letGo
  | exit
  | report
  | tick (milliseconds : Nat)
  /-- The grace period is over. -/
  | requestStop
  /-- The reader takes some octets. -/
  | read (count : Nat)
  /-- The reader finds the pipe closed. -/
  | readEnd
  /-- The reader finds nothing. -/
  | look
  /-- Having found nothing, the reader was told to stop. -/
  | stop
  /-- Having found nothing, the reader was not told to stop and waits. -/
  | wait
  /-- The reader cannot read. -/
  | fail
  /-- The capture returns what the finished reader has collected. -/
  | deliver
  deriving DecidableEq, Repr

def State.running (s : State) : Bool := s.exitMark.isNone

/-- Whether nobody can write to the pipe any more. -/
def State.closed (s : State) : Bool := !s.running && !s.held

/-- Whether the reader's next step is to read. -/
def State.reads (s : State) : Bool := !s.finished && s.looked.isNone

def State.append (s : State) (octets : Bytes) : State :=
  { s with pipe := s.pipe ++ octets, written := s.written ++ octets }

/-- One step of one party, if it is possible. -/
def step? (s : State) : Action → Option State
  | .write octets => if s.running then some (s.append octets) else none
  | .handOver => if s.running then some { s with held := true } else none
  | .writeBehind octets => if s.held then some (s.append octets) else none
  | .letGo => if s.held then some { s with held := false } else none
  | .exit => if s.running then some { s with exitMark := some s.written.length } else none
  | .report =>
    if !s.running && s.reported.isNone then some { s with reported := some 0 } else none
  | .tick milliseconds =>
    some { s with
      reported := s.reported.map (· + milliseconds), looked := s.looked.map (· + milliseconds) }
  | .requestStop =>
    match s.reported with
    | some elapsed =>
      if grace ≤ elapsed ∧ !s.finished then some { s with stopRequested := true } else none
    | none => none
  | .read count =>
    if s.reads && 0 < count && count ≤ readSize && count ≤ s.pipe.length then
      some { s with
        pipe := s.pipe.drop count, collected := s.collected ++ s.pipe.take count }
    else none
  | .readEnd =>
    if s.reads && s.pipe.isEmpty && s.closed then some { s with finished := true } else none
  | .look =>
    if s.reads && s.pipe.isEmpty && !s.closed then some { s with looked := some 0 } else none
  | .stop =>
    if s.looked.isSome && s.stopRequested then some { s with looked := none, finished := true }
    else none
  | .wait =>
    if s.looked.isSome && !s.stopRequested then some { s with looked := none } else none
  | .fail =>
    if s.reads then some { s with finished := true, failed := true } else none
  | .deliver =>
    if s.finished && s.reported.isSome && s.result.isNone then
      some { s with result := some s.collected }
    else none

/-! ## A run with given writes -/

/-- The order in which the parties act behind the last write: the reader takes as much as it can, the
    runtime ends and is reported, and time passes only when nobody else can act. -/
def schedule (s : State) : Option Action :=
  if s.result.isSome then none
  else if s.finished then some (if s.reported.isSome then .deliver else .report)
  else if s.looked.isSome then some (if s.stopRequested then .stop else .wait)
  else if !s.pipe.isEmpty then some (.read (min readSize s.pipe.length))
  else if s.running then some .exit
  else if s.closed then some .readEnd
  else
    match s.reported with
    | none => some .report
    | some elapsed =>
      if s.stopRequested then some .look
      else if grace ≤ elapsed then some .requestStop
      else some (.tick (grace - elapsed))

/-- What is collected from a runtime with the given writes, which may leave a holder of the pipe. -/
def ofWrites (writes : List Bytes) (leavesHolder : Bool) : Bytes :=
  let actions := writes.map Action.write ++ if leavesHolder then [.handOver] else []
  match Transition.replay? step? {} actions with
  | none => []
  | some s =>
    let limit := s.pipe.length / readSize + 16
    ((Transition.drive step? schedule limit s).result).getD []

end Overseer.Capture
