-- SUMMARY: The task behind an event stream: pump, kill unless the stream ended, reap.
import Overseer.Runtime.Behaviour
import Overseer.Telemetry.Pump

/-!
# Watching

The task that serves an event stream owns the process that prints the events. It runs the pump, asks
for the process to be killed unless the pump stopped at the end of the stream, and then waits for the
end of the process. The process may close its output long before it ends, and a process of its own may
keep that output open.
-/

namespace Overseer.Telemetry.Watch

inductive Stage where
  | pumping
  /-- Waiting for the end of the process, the pump having stopped for the given reason. -/
  | reaping (why : Pump.End)
  | finished
  deriving DecidableEq, Repr

structure State where
  pump : Pump.State := {}
  stage : Stage := .pumping
  /-- How the process ended, if it has. -/
  ended : Option WaitStatus := none
  killRequested : Bool := false
  /-- The bad end of a process whose stream had ended. -/
  complaint : Option ExitStatus := none

inductive Action where
  /-- The task's next step. -/
  | task
  /-- A step of the reader, the consumer or the caller. -/
  | around (a : Pump.Action)
  /-- The process ends. -/
  | exit (status : WaitStatus)

/-- The task's next step, unless it has to wait. -/
def task? (s : State) : Option State :=
  match s.stage with
  | .pumping =>
    match s.pump.end? with
    | some why =>
      some { s with
        stage := .reaping why, killRequested := s.killRequested || decide (why ≠ .eof) }
    | none => (Pump.advance? s.pump).map fun pump => { s with pump }
  | .reaping why =>
    match s.ended with
    | none => none
    | some status =>
      let exit := ExitStatus.ofWait status
      let complaint := if !exit.success && why = .eof then some exit else none
      some { s with stage := .finished, complaint }
  | .finished => none

/-- One step of one party, if it is possible. -/
def step? (s : State) : Action → Option State
  | .task => task? s
  | .around .pump => none
  | .around a => (Pump.step? s.pump a).map fun pump => { s with pump }
  | .exit status => if s.ended.isNone then some { s with ended := some status } else none

/-! ## A run against a given runtime -/

/-- The order in which the parties act: those around the pump as for the pump alone, then the process,
    which is killed if it does not end by itself. -/
def schedule (setting : Pump.Setting) (ending : Option WaitStatus) (s : State) : Option Action :=
  match Pump.schedule setting s.pump with
  | some .pump => some .task
  | some a => some (.around a)
  | none =>
    match s.stage with
    | .pumping => some .task
    | .reaping _ =>
      if s.ended.isSome then some .task
      else some (.exit (ending.getD (.signalled Signal.kill.number)))
    | .finished => none

/-- The last state of a stream whose consumer takes at most `take` events. -/
def run (b : Behaviour) (cancel : Supervision.CancelTime) (take : Option Nat) : State :=
  let setting : Pump.Setting := {
    chunks := ((b.output []).filter (·.stream = .stdout)).map (·.octets)
    closing := if (b.process []).isSome then some .eof else none
    take }
  let ready := setting.chunks.flatMap Pump.reads
  let limit := 8 * (ready.flatten.length + ready.length + 16)
  Transition.drive step? (schedule setting (b.process [])) limit
    { pump := { ready, closing := setting.closing, cancelled := decide (cancel = .before) } }

end Overseer.Telemetry.Watch
