-- SUMMARY: The two pipes that a process prints into, and what it has still to print.
import Overseer.Runtime.Behaviour

/-!
# Pipes

Standard output and standard error of a process are pipes of one capacity. A write goes in as far as there
is room; what is left of it waits, and everything behind it waits too.
-/

namespace Overseer

structure Pipes where
  /-- Octets that each of the pipes holds at most. -/
  capacity : Nat := 65536
  /-- Octets in the pipes. -/
  stdout : Bytes := []
  stderr : Bytes := []
  /-- What has still to be written. -/
  pending : List Write
  deriving DecidableEq, Repr

namespace Pipes

/-- The octets in one of the pipes. -/
def held (p : Pipes) : OutStream → Bytes
  | .stdout => p.stdout
  | .stderr => p.stderr

def hold (p : Pipes) (stream : OutStream) (octets : Bytes) : Pipes :=
  match stream with
  | .stdout => { p with stdout := octets }
  | .stderr => { p with stderr := octets }

/-- Whether there is nothing to be read. -/
def isEmpty (p : Pipes) : Bool := p.stdout.isEmpty && p.stderr.isEmpty

/-- The process goes on with its next write, as far as there is room for it. -/
def write? (p : Pipes) : Option Pipes :=
  match p.pending with
  | [] => none
  | w :: rest =>
    if w.octets.isEmpty then some { p with pending := rest }
    else
      let room := p.capacity - (p.held w.stream).length
      if room = 0 then none
      else
        some ({ p with pending := { w with octets := w.octets.drop room } :: rest }.hold w.stream
          (p.held w.stream ++ w.octets.take room))

/-- A reader takes some octets from the front of a pipe. -/
def drop (p : Pipes) (stream : OutStream) (count : Nat) : Pipes :=
  p.hold stream ((p.held stream).drop count)

/-- More than the steps it takes until everything is written and read. -/
def debt (p : Pipes) : Nat :=
  p.pending.foldr (fun w rest => 2 * w.octets.length + 1 + rest) 0
    + p.stdout.length + p.stderr.length

end Pipes

end Overseer
