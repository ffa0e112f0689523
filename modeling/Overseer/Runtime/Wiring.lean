-- SUMMARY: How the standard streams of an invocation are connected, and where its output goes.
import Overseer.Runtime.Behaviour

/-!
# Wiring

Each standard stream of an invocation is shared with the client, discarded, captured or connected to a
descriptor of the caller. The captured streams share one pipe, so their octets are collected in the
order in which they were written.
-/

namespace Overseer

inductive StreamMode where
  /-- The stream of the client itself. -/
  | inherited
  | null
  /-- Collected to be shown if the invocation fails. There is nothing to collect from standard input,
      which is empty then. -/
  | captured
  /-- A descriptor of the caller. -/
  | descriptor
  deriving DecidableEq, Repr

structure Wiring where
  stdin : StreamMode := .null
  stdout : StreamMode := .captured
  stderr : StreamMode := .captured
  deriving DecidableEq, Repr

namespace Wiring

/-- All three streams in one way. -/
def all (mode : StreamMode) : Wiring := ⟨mode, mode, mode⟩

def mode (w : Wiring) : OutStream → StreamMode
  | .stdout => w.stdout
  | .stderr => w.stderr

def captures (w : Wiring) : Bool := w.stdout = .captured || w.stderr = .captured

/-- What the invocation reads, if the caller's descriptor holds `given` and the client's own input
    holds `own`. -/
def input (w : Wiring) (given own : Bytes) : Bytes :=
  match w.stdin with
  | .descriptor => given
  | .inherited => own
  | _ => []

/-- The pieces that go into the shared pipe. -/
def captured (w : Wiring) (writes : List Write) : List Bytes :=
  (writes.filter fun write => w.mode write.stream = .captured).map (·.octets)

/-- What reaches the stream of the client or the caller if it is connected in the given mode. -/
def reaching (w : Wiring) (mode : StreamMode) (stream : OutStream) (writes : List Write) : Bytes :=
  if w.mode stream = mode then Write.on stream writes else []

end Wiring

end Overseer
