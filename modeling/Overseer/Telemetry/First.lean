-- SUMMARY: The first event of a stream.
import Overseer.Failure
import Overseer.Telemetry.Intake

/-!
# First event

Reads a stream until it has given one event; what is malformed is skipped, and what follows the event
is not looked at.
-/

namespace Overseer.Telemetry

/-- Takes outcomes until an event or until more octets are needed: the event, what was skipped before
    it, and the intake afterwards. -/
def Intake.nextEvent (skipped : List Noise) (i : Intake) :
    Option Event × List Noise × Intake :=
  match _h : i.next with
  | (.needMore, j) => (none, skipped, j)
  | (.event e, j) => (some e, skipped, j)
  | (.malformed why, j) => nextEvent (skipped ++ [why]) j
termination_by i.buffer.length
decreasing_by exact Intake.next_length _h nofun

/-- What reading up to the first event found. -/
structure First where
  /-- The first event; none if the stream ended before, or the failure of the reader. -/
  outcome : Except Unit (Option Event)
  skipped : List Noise
  /-- How many chunks were read. -/
  chunks : Nat

/-- Reads chunks up to the first event; `failing` says that the reader fails behind the last chunk. -/
def First.from (i : Intake) (skipped : List Noise) (count : Nat) (failing : Bool) :
    List Bytes → First
  | [] =>
    if failing then ⟨.error (), skipped, count⟩
    else
      let (found, skipped, _) := i.finish.nextEvent skipped
      ⟨.ok found, skipped, count⟩
  | chunk :: chunks =>
    match (i.feed chunk).nextEvent skipped with
    | (some e, skipped, _) => ⟨.ok (some e), skipped, count + 1⟩
    | (none, skipped, j) => First.from j skipped (count + 1) failing chunks

def First.ofChunks (chunks : List Bytes) (failing : Bool) : First :=
  First.from {} [] 0 failing chunks

/-- The failure of a reader while the stream of a container is read. -/
def First.unreadable (id : String) (why : SystemError) : Failure := .io ("read stats for " ++ id) why

/-- What is answered about a container; a reader that fails does so with `why`. -/
def First.answer (first : First) (id : String) (why : SystemError) : Except Failure (Option Event) :=
  first.outcome.mapError fun () => unreadable id why

end Overseer.Telemetry
