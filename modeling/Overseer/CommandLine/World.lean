-- SUMMARY: What a call of the program meets: a host, the runtime's behaviours, an interrupt.
import Overseer.Runtime.Client
import Overseer.Runtime.EventStream
import Overseer.Runtime.Query
import Overseer.Runtime.Usage

/-!
# World

The behaviours that the starts of the runtime show one after the other, the last of them for all further
starts; and an interrupt that comes, if it comes at all, when a runtime has begun to wait for signals.
After it everything counts as cancelled.
-/

namespace Overseer.CommandLine

structure World where
  host : Host
  behaviours : List Behaviour := []
  /-- Whether the user interrupts the program once a runtime waits. -/
  interrupts : Bool := false
  cancelled : Bool := false
  /-- The arguments of every start so far. -/
  starts : List (List String) := []
  deriving DecidableEq

namespace World

/-- The behaviour of the next start. -/
def behaviour (w : World) : Behaviour := w.behaviours.headD {}

/-- Whether the interrupt comes during a start with this behaviour. -/
def interruptedBy (w : World) (b : Behaviour) : Bool := w.interrupts && b.waiting.isSome

/-- When the next start is cancelled. -/
def cancelTime (w : World) : Supervision.CancelTime :=
  if w.cancelled then .before else if w.interruptedBy w.behaviour then .ready else .never

/-- The world after an attempt to start a command. A command that is cancelled before it starts leaves
    no trace. -/
def afterStart (w : World) (c : Command) : World :=
  if (w.host.obstacle? c).isSome then w
  else { w with
    behaviours :=
      match w.behaviours with
      | _ :: b :: rest => b :: rest
      | bs => bs
    cancelled := w.cancelled || w.interruptedBy w.behaviour
    starts := if w.cancelled then w.starts else w.starts ++ [c.args] }

/-- Performs an operation; behind a runtime that never ends nothing comes of it. -/
def perform (w : World) (client : Client) (wiring : Wiring) (op : Operation) :
    Option Client.Performance × World :=
  let p := client.perform?
    { host := w.host, behaviour := w.behaviour, cancel := w.cancelTime, wiring } op
  match op.args w.host.cwd with
  | .error _ => (p, w)
  | .ok args => (p, w.afterStart (client.launcher.command args))

/-- Asks the runtime something; a runtime that waits for ever gives no answer. -/
def ask {α : Type} (w : World) (client : Client) (q : Query α) :
    Option (Except Failure α) × World :=
  (q.ask? w.host client.launcher w.behaviour w.cancelTime,
    w.afterStart (client.launcher.command q.args))

/-- Asks for the usage of a container. -/
def usage (w : World) (client : Client) (id : String) :
    Option (Except Failure Telemetry.Stats) × List Telemetry.Noise × World :=
  let (answer, skipped) := Usage.ask? id w.host client.launcher w.behaviour w.cancelTime
  (answer, skipped, w.afterStart (client.launcher.command (Usage.args id)))

/-- Whether a start of a command goes on for ever: the runtime waits for a signal, and nobody sends one. -/
def idles (w : World) (c : Command) : Bool :=
  (w.host.obstacle? c).isNone && EventStream.endless w.behaviour w.cancelTime

/-- Watches the events of a container to the end of the stream, if it has one. -/
def watch (w : World) (client : Client) (id : String) (interval : Interval) :
    Option (Except Failure Telemetry.Watch.State) × World :=
  let found :=
    EventStream.watch? id interval w.host client.launcher w.behaviour w.cancelTime none
  match interval.seconds with
  | .error _ => (found, w)
  | .ok seconds => (found, w.afterStart (client.launcher.command (EventStream.args id seconds)))

end World

end Overseer.CommandLine
