-- SUMMARY: Event streams: the interval between samples and the invocation that prints them.
import Overseer.Runtime.Host
import Overseer.Telemetry.Watch

/-!
# Event streams

The runtime samples a container at an interval of whole seconds. An interval is given to the nanosecond
and cut to seconds, of which there must be at least one. A runtime that waits for a signal which nobody
sends keeps its stream open for ever.
-/

namespace Overseer

/-- A length of time in nanoseconds. -/
structure Interval where
  nanoseconds : Nat
  deriving DecidableEq, Repr

namespace Interval

def ofSeconds (n : Nat) : Interval := ⟨n * 1000000000⟩

/-- The digits behind the point of `part` units of which `10 ^ width` make a whole. -/
def fractionText (width part : Nat) : String :=
  let digits := toString part
  let padded := List.replicate (width - digits.length) '0' ++ digits.toList
  let kept := (padded.reverse.dropWhile (· = '0')).reverse
  if kept.isEmpty then "" else "." ++ String.ofList kept

/-- A number of nanoseconds in a unit of `10 ^ width` nanoseconds. -/
def inUnit (width n : Nat) (unit : String) : String :=
  toString (n / Nat.pow 10 width) ++ fractionText width (n % Nat.pow 10 width) ++ unit

/-- The time in the largest unit that does not exceed it. -/
def text (i : Interval) : String :=
  let n := i.nanoseconds
  if n < 1000 then inUnit 0 n "ns"
  else if n < 1000000 then inUnit 3 n "µs"
  else if n < 1000000000 then inUnit 6 n "ms"
  else inUnit 9 n "s"

/-- The whole seconds of an interval. -/
def seconds (i : Interval) : Except Failure Nat :=
  if i.nanoseconds / 1000000000 = 0 then
    .error (.invalidArgument ("event interval must be at least one second, got " ++ i.text))
  else .ok (i.nanoseconds / 1000000000)

/-- Seconds are passed on as they are, if there are any. -/
theorem seconds_ofSeconds {n k : Nat} : (ofSeconds n).seconds = .ok k ↔ 0 < n ∧ k = n := by
  have whole : (ofSeconds n).nanoseconds / 1000000000 = n := Nat.mul_div_cancel n (by decide)
  rw [seconds, whole]
  by_cases zero : n = 0
  · simp [zero]
  · simp [zero, Nat.pos_iff_ne_zero, eq_comm]

end Interval

namespace EventStream

def args (id : String) (seconds : Nat) : List String :=
  ["events", "--interval=" ++ toString seconds ++ "s", id]

/-- Whether a runtime with the given behaviour is never ended. -/
def endless (b : Behaviour) (cancel : Supervision.CancelTime) : Bool :=
  b.waiting.isSome &&
    match cancel with
    | .never | .after => true
    | .before | .ready => false

/-- Starts a stream and lets it run to its end, the consumer taking at most `take` events; nothing if the
    consumer waits for ever. -/
def watch? (id : String) (interval : Interval) (host : Host) (launcher : Launcher) (b : Behaviour)
    (cancel : Supervision.CancelTime) (take : Option Nat) :
    Option (Except Failure Telemetry.Watch.State) :=
  match interval.seconds with
  | .error why => some (.error why)
  | .ok seconds =>
    match host.obstacle? (launcher.command (args id seconds)) with
    | some why => some (.error (.start launcher.program why))
    | none =>
      let s := Telemetry.Watch.run b cancel take
      if endless b cancel && decide (take ≠ some s.pump.received.length) then none else some (.ok s)

end EventStream

end Overseer
