-- SUMMARY: Records from an unframed stream of JSON objects, fed piece by piece.
import Overseer.Telemetry.Format

/-!
# Intake

Octets are fed as they arrive, and outcomes are taken from the front of the buffer. Noise is tolerated:
a complete object that is no event is dropped whole; anything else that is wrong drops the buffer up
to the next opening brace behind its first octet. As long as the stream goes on, a text that merely
ends too early is waited for; once it has ended, such a text is noise too.

`next_length` says that every outcome but `needMore` takes octets off the buffer, so `drain` ends.
-/

namespace Overseer.Telemetry

/-- Octets that are waiting to be decoded. -/
structure Intake where
  buffer : Bytes := []
  /-- Nothing will be fed any more. -/
  ended : Bool := false
  deriving DecidableEq, Repr

/-- Why something in the stream was skipped. -/
inductive Noise where
  /-- An object that is no event. -/
  | notEvent (why : Json.Mismatch)
  /-- A value of another kind than an object. -/
  | notObject (kind : String)
  /-- The stream ended inside a value; so many octets were left. -/
  | truncated (length : Nat)
  | broken (why : Json.Diagnosis)
  deriving DecidableEq, Repr

def Noise.message : Noise → String
  | notEvent why => "not an event: " ++ why.message
  | notObject kind => "not an event: " ++ kind
  | truncated length =>
    "truncated record at end of stream (" ++ toString length ++ " bytes)"
  | broken why => why.message

inductive Outcome where
  | event (e : Event)
  | malformed (why : Noise)
  /-- The buffer holds no complete value yet. -/
  | needMore
  deriving DecidableEq

/-- The events among some outcomes. -/
def Outcome.event? : Outcome → Option Event
  | event e => some e
  | _ => none

namespace Intake

def feed (i : Intake) (chunk : Bytes) : Intake := { i with buffer := i.buffer ++ chunk }

/-- Marks the stream as finished. -/
def finish (i : Intake) : Intake := { i with ended := true }

/-- The text from the next place where a record may start, behind the first octet. -/
def resync (s : Bytes) : Bytes := s.tail.dropWhile (· ≠ 0x7B)

/-- Takes one outcome from the front of the buffer. -/
def next (i : Intake) : Outcome × Intake :=
  match Json.firstValue i.buffer with
  | .ok none => (.needMore, { i with buffer := [] })
  | .ok (some (v, rest)) =>
    if v.isObject then
      match Event.decoder.value v with
      | .ok e => (.event e, { i with buffer := rest })
      | .error why => (.malformed (.notEvent why), { i with buffer := rest })
    else (.malformed (.notObject v.kind), { i with buffer := resync i.buffer })
  | .error fault =>
    if fault.isUnfinished then
      if i.ended then
        (.malformed (.truncated i.buffer.length), { i with buffer := resync i.buffer })
      else (.needMore, i)
    else
      (.malformed (.broken (fault.diagnosis i.buffer)), { i with buffer := resync i.buffer })

theorem resync_length {s : Bytes} (h : s ≠ []) : (resync s).length < s.length := by
  have short := (List.dropWhile_sublist (fun b : UInt8 => decide (b ≠ 0x7B)) (l := s.tail)).length_le
  have := List.length_pos_iff.mpr h
  rw [List.length_tail] at short
  unfold resync
  omega

theorem firstValue_length {s rest : Bytes} {v : Json.Value}
    (h : Json.firstValue s = .ok (some (v, rest))) : rest.length < s.length := by
  unfold Json.firstValue at h
  split at h
  · cases h
  rename_i b t eq
  have short := Json.skipBlanks_length s
  rw [eq] at short
  split at h
  · cases h
  rename_i read
  have := Json.Reader.anyValue.consumes read
  split at h
  · cases h
    rw [List.length_nil] at this ⊢
    omega
  split at h
  · cases h; omega
  · cases h

/-- The first value of a stream is missing or has an error only if there are octets. -/
theorem firstValue_nil : Json.firstValue [] = .ok none := rfl

theorem next_length {i j : Intake} {o : Outcome} (h : i.next = (o, j)) (more : o ≠ .needMore) :
    j.buffer.length < i.buffer.length := by
  have nonempty : Json.firstValue i.buffer ≠ .ok none → i.buffer ≠ [] :=
    fun ne nil => ne (by rw [nil, firstValue_nil])
  unfold next at h
  split at h
  · cases h; exact absurd rfl more
  · rename_i eq
    split at h
    · split at h
      · cases h; exact firstValue_length eq
      · cases h; exact firstValue_length eq
    · cases h; exact resync_length (nonempty (by rw [eq]; nofun))
  · rename_i eq
    have := nonempty (by rw [eq]; nofun)
    split at h
    · split at h
      · cases h; exact resync_length this
      · cases h; exact absurd rfl more
    · cases h; exact resync_length this

/-- Takes outcomes until more octets are needed. -/
def drain (i : Intake) : List Outcome × Intake :=
  match _h : i.next with
  | (.needMore, j) => ([], j)
  | (.event e, j) =>
    let (rest, k) := drain j
    (.event e :: rest, k)
  | (.malformed why, j) =>
    let (rest, k) := drain j
    (.malformed why :: rest, k)
termination_by i.buffer.length
decreasing_by
  · exact next_length _h nofun
  · exact next_length _h nofun

/-- The events that a chunk completes. -/
def feedAll (i : Intake) : List Bytes → List Outcome × Intake
  | [] => ([], i)
  | chunk :: chunks =>
    let (found, j) := (i.feed chunk).drain
    let (more, k) := feedAll j chunks
    (found ++ more, k)

/-- All outcomes of a stream that arrives in chunks and ends. -/
def session (chunks : List Bytes) : List Outcome × Intake :=
  let (found, i) := feedAll {} chunks
  let (last, j) := i.finish.drain
  (found ++ last, j)

end Intake

end Overseer.Telemetry
