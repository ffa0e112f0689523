-- SUMMARY: Handing a command to a monitor: the caller, the monitor and whoever wants the pid, step by step.
import Overseer.Supervision.Monitored
import Overseer.Transition

/-!
# Handovers

A caller connects the streams of its invocation, has the monitor start the command, passes the pid on if
it was asked for, waits for the end and then takes what was captured. The monitor reports the end once,
or goes away, at any time behind the start. Whoever asked for the pid may stop listening at any time.
`Monitored.run` is what comes of it.
-/

namespace Overseer.Handover

open Monitored (Step)

inductive Stage where
  /-- About to connect the streams. -/
  | connecting
  /-- About to have the command started. -/
  | starting
  /-- The command has started; about to pass its pid on. -/
  | telling (pid : UInt32)
  /-- About to wait for the end. -/
  | calling (pid : UInt32)
  | waiting (pid : UInt32)
  /-- The end was reported; about to take what was captured. -/
  | collecting (exit : Exit)
  | finished (result : Except Failure Exit)

/-- The place at which the end of a process arrives. -/
inductive Slot where
  /-- There is no process yet. -/
  | unmade
  | pending
  | reported (exit : Exit)
  /-- Whoever should have reported the end is gone. -/
  | dropped
  deriving DecidableEq

structure State where
  program : String
  command : Command
  wiring : Wiring
  /-- Whether the pid was asked for and the means to pass it on are at hand. -/
  sender : Bool
  /-- Whether somebody still wants to know it. -/
  listening : Bool
  stage : Stage := .connecting
  slot : Slot := .unmade
  /-- The pid that has arrived where it was awaited. -/
  notified : Option UInt32 := none
  /-- What the caller has done, oldest first. -/
  steps : List Step := []

inductive Action where
  /-- The caller connects the streams, or cannot. -/
  | connect (obstacle : Option Failure)
  /-- The caller has the command started; the monitor answers with the pid, or refuses. -/
  | start (answer : Except Failure UInt32)
  /-- The caller passes the pid on. -/
  | tell
  /-- The caller begins to wait for the end. -/
  | await
  /-- The caller finds the end, or that nobody will report one. -/
  | hear
  /-- The caller takes what was captured. -/
  | collect (octets : Bytes)
  /-- The monitor reports the end. -/
  | report (exit : Exit)
  /-- The monitor goes away. -/
  | vanish
  /-- Whoever wanted the pid stops listening. -/
  | leave

def State.note (s : State) (step : Step) : State := { s with steps := s.steps ++ [step] }

/-- The caller returns, and gives up the means to pass a pid on. -/
def State.finish (s : State) (result : Except Failure Exit) : State :=
  { s with stage := .finished result, sender := false }

/-- The pid is passed on if it was asked for. It arrives only if somebody listens; the caller goes on in
    any case. -/
def State.tell (s : State) (pid : UInt32) : State :=
  if s.sender then
    { s.note (.notify pid) with
      stage := .calling pid, sender := false, notified := if s.listening then some pid else none }
  else { s with stage := .calling pid }

/-- What the caller returns once it has the end and the captured output. -/
def State.verdict (s : State) (exit : Exit) (octets : Bytes) : Except Failure Exit :=
  match Verdict.ofExit s.program exit (if s.wiring.captures then octets else []) with
  | .ok () => .ok exit
  | .error why => .error why

/-- One step of one party, if it is possible. -/
def step? (s : State) : Action → Option State
  | .connect obstacle =>
    match s.stage, obstacle with
    | .connecting, none => some { s with stage := .starting }
    | .connecting, some why => some (s.finish (.error why))
    | _, _ => none
  | .start answer =>
    match s.stage, answer with
    | .starting, .ok pid =>
      some { s.note (.start s.command) with stage := .telling pid, slot := .pending }
    | .starting, .error why => some ((s.note (.start s.command)).finish (.error why))
    | _, _ => none
  | .tell =>
    match s.stage with
    | .telling pid => some (s.tell pid)
    | _ => none
  | .await =>
    match s.stage with
    | .calling pid => some { s.note (.await pid) with stage := .waiting pid }
    | _ => none
  | .hear =>
    match s.stage, s.slot with
    | .waiting _, .reported exit => some { s with stage := .collecting exit }
    | .waiting pid, .dropped => some (s.finish (.error (Monitored.droppedBy pid)))
    | _, _ => none
  | .collect octets =>
    match s.stage with
    | .collecting exit => some (s.finish (s.verdict exit octets))
    | _ => none
  | .report exit => if s.slot = .pending then some { s with slot := .reported exit } else none
  | .vanish => if s.slot = .pending then some { s with slot := .dropped } else none
  | .leave => if s.listening then some { s with listening := false } else none

end Overseer.Handover
