-- SUMMARY: A supervised process with its reaper and its canceller, and everything they race with.
import Overseer.Supervision.Escalation
import Overseer.Transition

/-!
# Supervision

Two tasks look after a process. The reaper waits for its end, reports it once and then announces that
the process is done; while it waits it delivers the signals that are asked for. The canceller waits for
cancellation or for the announcement, asks for the graceful signal, and asks for the kill when the time
limit passes without the announcement. The process, the clock, the caller and the owner of the receiver
act on their own.

The reaper looks at the process before it looks at the signals, so a signal is delivered only to a
process that has not been reaped. The canceller looks for the announcement before it looks for
cancellation or at the clock. Two looks of one task are two steps, between which anything may happen,
and a task that waits may at any time be woken to look anew.
-/

namespace Overseer.Supervision

/-- The process, as far as its parent can tell. `none` is a wait that fails. -/
inductive Child where
  | running
  /-- It has ended and was not waited for yet. -/
  | ended (outcome : Option WaitStatus)
  | reaped (outcome : Option WaitStatus)
  deriving DecidableEq, Repr

def Child.isReaped : Child → Bool
  | reaped _ => true
  | _ => false

inductive Reaper where
  /-- About to look whether the process has ended. -/
  | waiting
  /-- It had not; about to look for a signal to deliver. -/
  | listening
  /-- About to report the end. -/
  | reporting (exit : Exit)
  /-- About to announce that the process is done. -/
  | announcing
  /-- It is announced; about to give up the signals. -/
  | closing
  | finished
  deriving DecidableEq, Repr

inductive Canceller where
  /-- About to look for the announcement. -/
  | watching
  /-- There was none; about to look for cancellation. -/
  | attending
  /-- Asking for a signal. -/
  | asking (s : Signal)
  /-- About to set the time limit. -/
  | arming
  /-- About to look for the announcement, with a kill to ask for when the clock shows `deadline`. -/
  | timing (deadline : Nat)
  /-- There was none; about to look at the clock. -/
  | expecting (deadline : Nat)
  | stopped
  deriving DecidableEq, Repr

/-- The most signals that are ever waiting to be delivered. -/
def queueDepth : Nat := 2

structure State where
  pid : UInt32
  escalation : Escalation
  child : Child := .running
  reaper : Reaper := .waiting
  canceller : Canceller := .watching
  /-- Signals that wait to be delivered, oldest first. -/
  queue : List Signal := []
  cancelled : Bool := false
  done : Bool := false
  receiverDropped : Bool := false
  /-- The reports that were sent, oldest first. -/
  sent : List Exit := []
  /-- Milliseconds. -/
  clock : Nat := 0
  /-- The signals that were asked for, oldest first, with the time. -/
  asked : List (Signal × Nat) := []
  /-- The signals that were delivered, oldest first, with what the process was then. -/
  delivered : List (Signal × Child) := []
  deriving DecidableEq

inductive Action where
  /-- The reaper's next step. -/
  | reap
  /-- The canceller's next step. -/
  | escalate
  /-- The reaper is woken before it has a signal, and looks at the process anew. -/
  | wakeReaper
  /-- The canceller is woken before its time, and looks for the announcement anew. -/
  | wakeCanceller
  | cancel
  | dropReceiver
  /-- The process ends. -/
  | finish (outcome : Option WaitStatus)
  /-- Time passes. -/
  | tick (milliseconds : Nat)
  deriving DecidableEq

/-- The reaper's next step, unless it has to wait. -/
def reap? (s : State) : Option State :=
  match s.reaper with
  | .waiting =>
    match s.child with
    | .ended outcome =>
      some { s with
        child := .reaped outcome, reaper := .reporting (Exit.ofOutcome s.pid outcome) }
    | _ => some { s with reaper := .listening }
  | .listening =>
    match s.queue with
    | signal :: rest =>
      some { s with
        queue := rest, delivered := s.delivered ++ [(signal, s.child)], reaper := .waiting }
    | [] => if s.child = .running then none else some { s with reaper := .waiting }
  | .reporting exit => some { s with sent := s.sent ++ [exit], reaper := .announcing }
  | .announcing => some { s with done := true, reaper := .closing }
  | .closing => some { s with queue := [], reaper := .finished }
  | .finished => none

/-- The canceller's next step, unless it has to wait. A request to a reaper that is gone has no
    effect. -/
def escalate? (s : State) : Option State :=
  match s.canceller with
  | .watching => some { s with canceller := if s.done then .stopped else .attending }
  | .attending =>
    if s.cancelled then some { s with canceller := .asking (s.escalation.graceful.getD .kill) }
    else none
  | .asking signal =>
    let next :=
      if s.asked.isEmpty ∧ s.escalation.graceful.isSome ∧ 0 < s.escalation.killTimeout then
        Canceller.arming
      else .stopped
    let asked := s.asked ++ [(signal, s.clock)]
    if s.reaper = .finished then some { s with asked, canceller := next }
    else if s.queue.length < queueDepth then
      some { s with asked, queue := s.queue ++ [signal], canceller := next }
    else none
  | .arming => some { s with canceller := .timing (s.clock + s.escalation.killTimeout) }
  | .timing deadline =>
    some { s with canceller := if s.done then .stopped else .expecting deadline }
  | .expecting deadline =>
    if deadline ≤ s.clock then some { s with canceller := .asking .kill } else none
  | .stopped => none

/-- A reaper that waits for a signal starts over with its look at the process. -/
def wakeReaper? (s : State) : Option State :=
  match s.reaper with
  | .listening => some { s with reaper := .waiting }
  | _ => none

/-- A canceller that waits starts over with its look for the announcement. -/
def wakeCanceller? (s : State) : Option State :=
  match s.canceller with
  | .attending => some { s with canceller := .watching }
  | .expecting deadline => some { s with canceller := .timing deadline }
  | _ => none

/-- One step of one party, if it is possible. -/
def step? (s : State) : Action → Option State
  | .reap => reap? s
  | .escalate => escalate? s
  | .wakeReaper => wakeReaper? s
  | .wakeCanceller => wakeCanceller? s
  | .cancel => some { s with cancelled := true }
  | .dropReceiver => some { s with receiverDropped := true }
  | .finish outcome =>
    if s.child = .running then some { s with child := .ended outcome } else none
  | .tick milliseconds => some { s with clock := s.clock + milliseconds }

/-- A process whose supervision begins. -/
def start (pid : UInt32) (escalation : Escalation) : State := { pid, escalation }

/-! ## A run with a given process -/

/-- When the caller cancels. -/
inductive CancelTime where
  | never
  /-- Before the process is started. -/
  | before
  /-- Once the process is ready and waits for signals. -/
  | ready
  /-- After the process has ended. -/
  | after
  deriving DecidableEq, Repr

/-- A process, as a function of the signals it has got: how it ends, or nothing as long as it waits for
    more. -/
abbrev Process := List Signal → Option WaitStatus

/-- The order in which the parties act around a process that is ready at once: the process answers each
    signal before anything else happens, the announcement wakes the canceller, and time passes only when
    nobody else can act. -/
def schedule (process : Process) (cancel : CancelTime) (s : State) : Option Action :=
  let got := s.delivered.map (·.1)
  let wantsCancel : Bool :=
    match cancel with
    | .never => false
    | .before | .ready => !s.cancelled
    | .after => !s.cancelled && s.reaper == .finished
  match s.child, process got with
  | .running, some status => some (.finish (some status))
  | _, _ =>
    if s.done && (wakeCanceller? s).isSome then some .wakeCanceller
    else if wantsCancel then some .cancel
    else if (escalate? s).isSome then some .escalate
    else if (reap? s).isSome then some .reap
    else
      match s.canceller with
      | .expecting deadline => some (.tick (deadline - s.clock))
      | _ => none

/-- More steps than any scheduled run takes. -/
def runLimit : Nat := 64

/-- The supervision of a process up to the point where nobody acts any more. -/
def run (pid : UInt32) (escalation : Escalation) (process : Process) (cancel : CancelTime) : State :=
  Transition.drive step? (schedule process cancel) runLimit (start pid escalation)

end Overseer.Supervision
