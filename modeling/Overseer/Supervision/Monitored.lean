-- SUMMARY: An invocation that is handed to a monitor: start, notice, wait, verdict.
import Overseer.Runtime.Wiring
import Overseer.Supervision.Verdict

/-!
# Monitored invocations

A monitor starts a command and later reports its end. Whatever it does, it is asked to start the command
once; the pid is passed on before the end is waited for; and the report decides, together with the
collected output, whether the invocation succeeded.
-/

namespace Overseer

/-- What a monitor does with a command. -/
inductive Report where
  /-- It does not start the command. -/
  | refused (why : Failure)
  /-- It starts the command and goes away without a report. -/
  | dropped (pid : UInt32)
  /-- It starts the command as process `pid` and reports an end. -/
  | ended (pid : UInt32) (exit : Exit)
  deriving DecidableEq, Repr

abbrev Monitor := Command → Report

namespace Monitored

/-- Whether somebody wants to know the pid as soon as the command has started. -/
inductive Notice where
  | unwanted
  | awaited
  /-- It was asked for, but nobody listens any more. -/
  | abandoned
  deriving DecidableEq, Repr

inductive Step where
  | start (c : Command)
  | notify (pid : UInt32)
  | await (pid : UInt32)
  deriving DecidableEq, Repr

/-- What happened during an invocation, and how it ended. -/
structure Course where
  steps : List Step
  /-- The pid that has arrived where it was awaited. -/
  notified : Option UInt32
  result : Except Failure Exit

/-- Whether the command was started. -/
def Course.started (c : Course) : Bool := c.steps.any fun step =>
  match step with
  | .await _ => true
  | _ => false

/-- The failure of an invocation whose monitor went away. -/
def droppedBy (pid : UInt32) : Failure :=
  .internal ("monitor for process " ++ toString pid.toNat
    ++ " dropped without delivering an exit")

/-- The part of an invocation that follows the start of process `pid`. -/
def attend (pid : UInt32) (notice : Notice) (started : Step) (result : Except Failure Exit) :
    Course where
  steps := started :: (if notice = .unwanted then [] else [.notify pid]) ++ [.await pid]
  notified := if notice = .awaited then some pid else none
  result

/-- The course of an invocation. `collected` is what came out of the shared pipe, if there is one. -/
def run (monitor : Monitor) (program : String) (c : Command) (wiring : Wiring) (notice : Notice)
    (collected : Bytes) : Course :=
  match monitor c with
  | .refused why => ⟨[.start c], none, .error why⟩
  | .dropped pid => attend pid notice (.start c) (.error (droppedBy pid))
  | .ended pid exit =>
    let output := if wiring.captures then collected else []
    attend pid notice (.start c)
      (match Verdict.ofExit program exit output with
      | .ok () => .ok exit
      | .error why => .error why)

end Monitored

end Overseer
