-- SUMMARY: How a cancelled process is brought to an end.
import Overseer.Runtime.Launcher

/-!
# Escalation

A cancelled process first gets a signal that it can act upon and is killed when a time limit has passed.
Without such a signal it is killed right away; with a limit of zero it is never killed.
-/

namespace Overseer

structure Escalation where
  /-- The signal sent on cancellation. -/
  graceful : Option Signal := some .term
  /-- Milliseconds between that signal and the kill. -/
  killTimeout : Nat := 10000
  deriving DecidableEq, Repr

namespace Escalation

def ofSettings (c : CancelSettings) : Except Failure Escalation :=
  match Signal.parseOption c.defaultSignal with
  | .ok graceful => .ok { graceful, killTimeout := c.killTimeoutSecs.toNat * 1000 }
  | .error why => .error why

/-- The signals that the escalation may send, in order. -/
def plan (e : Escalation) : List Signal :=
  match e.graceful with
  | none => [.kill]
  | some g => if e.killTimeout = 0 then [g] else [g, .kill]

end Escalation

end Overseer
