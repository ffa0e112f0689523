-- SUMMARY: What a runtime does when it is started: its output, its end, its answer to signals.
import Overseer.Supervision.Supervisor
import Overseer.Text.Utf8

/-!
# Behaviour of a runtime

The executable behind a client is not part of it. All that a client can tell of one start is described
here: what is written in which order, whether the process waits for signals, and how it ends.
-/

namespace Overseer

/-! ## Usual effects of signals -/

/-- What a signal does to a process that has no handler for it. -/
inductive SignalEffect where
  | ends
  | stops
  | nothing
  deriving DecidableEq, Repr

def Signal.usualEffect : Signal → SignalEffect
  | .chld | .cont | .urg | .winch => .nothing
  | .stop | .tstp | .ttin | .ttou => .stops
  | _ => .ends

/-- The end of a process that a signal with its usual effect brings about. -/
def Signal.fatal? (s : Signal) : Option WaitStatus :=
  if s.usualEffect = .ends then some (.signalled s.number) else none

/-! ## Behaviour -/

/-- An output stream of a process. -/
inductive OutStream where
  | stdout
  | stderr
  deriving DecidableEq, Repr

structure Write where
  stream : OutStream
  octets : Bytes
  deriving DecidableEq, Repr

/-- What was written to one of the streams. -/
def Write.on (stream : OutStream) (writes : List Write) : Bytes :=
  (writes.filter (·.stream = stream)).flatMap (·.octets)

/-- How a process waits for signals. -/
inductive Waiting where
  /-- Without a handler. -/
  | plainly
  /-- Notes each SIGTERM and goes on waiting. -/
  | notingTerm
  /-- Notes the first SIGTERM and ends with a code. -/
  | leaving (code : UInt8)
  deriving DecidableEq, Repr

structure Behaviour where
  writes : List Write := []
  /-- Copies its input to standard output, behind the writes. -/
  echoes : Bool := false
  /-- Leaves a process behind that keeps its output open for a while. -/
  leavesHolder : Bool := false
  /-- Waits for signals before it ends by itself. -/
  waiting : Option Waiting := none
  /-- The signal that it ends itself with. -/
  ownSignal : Option Nat := none
  code : UInt8 := 0
  /-- An end that is described by neither, such as one by a signal with a core dump. -/
  otherEnd : Option WaitStatus := none
  deriving DecidableEq, Repr

namespace Behaviour

/-- Everything that is written by a start with the given input. -/
def output (b : Behaviour) (input : Bytes) : List Write :=
  if b.echoes then b.writes ++ [⟨.stdout, input⟩] else b.writes

/-- The effect of a signal that the process sends itself, by its number. -/
def ownEffect? (number : Nat) : Option WaitStatus :=
  match Signal.ofNumber? number with
  | some s => s.fatal?
  | none => if 32 ≤ number ∧ number ≤ 64 then some (.signalled number) else none

/-- The end that the process comes to by itself. -/
def naturalEnd (b : Behaviour) : WaitStatus :=
  b.otherEnd.getD ((b.ownSignal.bind ownEffect?).getD (.exited b.code))

/-- What a signal does to a process that is waiting. -/
def answer? (w : Waiting) (s : Signal) : Option WaitStatus :=
  match w, s with
  | .notingTerm, .term => none
  | .leaving code, .term => some (.exited code)
  | _, s => s.fatal?

/-- The process once its handlers are in place. -/
def process (b : Behaviour) : Supervision.Process := fun got =>
  match b.waiting with
  | none => some b.naturalEnd
  | some w => got.findSome? (answer? w)

/-- The process that gets its signals before it has begun to do anything. -/
def newborn (b : Behaviour) : Supervision.Process := fun got =>
  match got.findSome? Signal.fatal? with
  | some status => some status
  | none => if got.isEmpty ∨ b.waiting.isSome then none else some b.naturalEnd

/-- The signals that the process notes. -/
def noted (b : Behaviour) (got : List Signal) : List Signal :=
  match b.waiting with
  | some .notingTerm => got.filter (· = .term)
  | some (.leaving _) => (got.filter (· = .term)).take 1
  | _ => []

end Behaviour

end Overseer
