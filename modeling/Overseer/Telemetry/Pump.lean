-- SUMMARY: The pump that moves events from a reader into a bounded channel, with all its rivals.
import Overseer.Telemetry.Intake
import Overseer.Transition

/-!
# Pump

The pump decodes what its reader delivers and sends the events into a channel of fixed capacity. It
looks for cancellation before each send and each read, and otherwise waits: for room in the channel, or
for the reader. The consumer, the reader and the caller who may cancel act on their own; a state holds
all of them, and every action is one step of one party.

A step of the pump is one poll: the look for cancellation and what follows it, the send or the look at the
reader, are not taken apart, so a cancellation that comes between the two counts as coming behind both. The
read itself is a step of its own.
-/

namespace Overseer.Telemetry.Pump

/-- Capacity of the channel unless another is asked for. -/
def defaultCapacity : Nat := 128

/-- The most octets that one read delivers. -/
def readSize : Nat := 8192

/-- Why the pump stopped. -/
inductive End where
  | eof
  | readFailed
  | cancelled
  | receiverDropped
  deriving DecidableEq, Repr

/-- How a stream of chunks stops. -/
inductive Closing where
  | eof
  | failed
  deriving DecidableEq, Repr

inductive Stage where
  /-- About to take an outcome from the buffer. -/
  | decoding
  /-- About to send an event, or waiting for room. -/
  | sending (e : Event)
  /-- Waiting for the reader. -/
  | waiting
  /-- The reader has something; it is being read. -/
  | reading
  | stopped (why : End)
  deriving DecidableEq

structure State where
  intake : Intake := {}
  stage : Stage := .decoding
  /-- Chunks that the reader holds ready. -/
  ready : List Bytes := []
  closing : Option Closing := none
  capacity : Nat := defaultCapacity
  /-- The events in the channel, oldest first. -/
  queue : List Event := []
  cancelled : Bool := false
  receiverDropped : Bool := false
  /-- What the consumer got, oldest first. -/
  received : List Event := []
  /-- The chunks read so far, oldest first. -/
  taken : List Bytes := []
  /-- Whether the end of the stream was read. -/
  sawEnd : Bool := false
  /-- What was skipped, oldest first. -/
  skipped : List Noise := []

inductive Action where
  /-- The pump's next step. -/
  | pump
  /-- The reader gets a chunk. -/
  | arrive (chunk : Bytes)
  /-- Nothing follows the chunks that the reader holds. -/
  | close (how : Closing)
  | cancel
  /-- The consumer takes an event. -/
  | receive
  | dropReceiver

/-- The pump's next step, if it is not stopped and not waiting for something. -/
def advance? (s : State) : Option State :=
  match s.stage with
  | .decoding =>
    match s.intake.next with
    | (.event e, i) => some { s with intake := i, stage := .sending e }
    | (.malformed why, i) => some { s with intake := i, skipped := s.skipped ++ [why] }
    | (.needMore, i) =>
      some { s with intake := i, stage := if s.intake.ended then .stopped .eof else .waiting }
  | .sending e =>
    if s.cancelled then some { s with stage := .stopped .cancelled }
    else if s.receiverDropped then some { s with stage := .stopped .receiverDropped }
    else if s.queue.length < s.capacity then
      some { s with queue := s.queue ++ [e], stage := .decoding }
    else none
  | .waiting =>
    if s.cancelled then some { s with stage := .stopped .cancelled }
    else if s.ready.isEmpty && s.closing.isNone then none
    else some { s with stage := .reading }
  | .reading =>
    match s.ready, s.closing with
    | chunk :: rest, _ =>
      some { s with
        intake := s.intake.feed chunk, stage := .decoding, ready := rest,
        taken := s.taken ++ [chunk] }
    | [], some .eof =>
      some { s with intake := s.intake.finish, stage := .decoding, sawEnd := true }
    | [], some .failed => some { s with stage := .stopped .readFailed }
    | [], none => none
  | .stopped _ => none

/-- One step of one party, if it is possible. -/
def step? (s : State) : Action → Option State
  | .pump => advance? s
  | .arrive chunk =>
    if s.closing.isNone && !chunk.isEmpty && chunk.length ≤ readSize then
      some { s with ready := s.ready ++ [chunk] }
    else none
  | .close how => if s.closing.isNone then some { s with closing := some how } else none
  | .cancel => some { s with cancelled := true }
  | .receive =>
    match s.queue with
    | e :: rest =>
      if s.receiverDropped then none
      else some { s with queue := rest, received := s.received ++ [e] }
    | [] => none
  | .dropReceiver => some { s with receiverDropped := true }

/-! ## A run with a given reader and consumer -/

/-- Cuts a chunk into reads. -/
def reads (chunk : Bytes) : List Bytes :=
  if _h : chunk.isEmpty then []
  else chunk.take readSize :: reads (chunk.drop readSize)
termination_by chunk.length
decreasing_by
  have : chunk ≠ [] := by simpa using _h
  have := List.length_pos_iff.mpr this
  rw [List.length_drop]
  simp only [readSize]
  omega

/-- A reader, a consumer and a caller of the pump. -/
structure Setting where
  chunks : List Bytes
  /-- How the reader ends; one that never answers again gets the pump cancelled instead. -/
  closing : Option Closing
  capacity : Nat := defaultCapacity
  /-- After how many events the consumer drops its receiver. -/
  take : Option Nat := none
  /-- While which chunk, counted from 0, begins to be read the caller cancels; the end counts as one
      chunk more. -/
  cancelAt : Option Nat := none

/-- The number of the read during which the caller cancels. -/
def Setting.cancelRead? (setting : Setting) : Option Nat :=
  let chunks := setting.chunks.filter (!·.isEmpty)
  match setting.cancelAt with
  | none => none
  | some k => if k ≤ chunks.length then some ((chunks.take k).flatMap reads).length else none

/-- The order in which the parties of a setting act: the consumer as soon as it can, the caller when
    its read is under way, and the pump whenever it can. -/
def schedule (setting : Setting) (s : State) : Option Action :=
  if setting.take = some s.received.length ∧ !s.receiverDropped then some .dropReceiver
  else if !s.queue.isEmpty && !s.receiverDropped then some .receive
  else
    match s.stage with
    | .stopped _ => none
    | .reading =>
      if setting.cancelRead? = some s.taken.length ∧ !s.cancelled then some .cancel
      else some .pump
    | .waiting =>
      if s.ready.isEmpty ∧ s.closing.isNone ∧ !s.cancelled then some .cancel else some .pump
    | _ => some .pump

/-- What is left of a setting when no party acts any more. -/
def Setting.run (setting : Setting) : State :=
  let ready := setting.chunks.flatMap reads
  let limit := 8 * (ready.flatten.length + ready.length + 8)
  Transition.drive step? (schedule setting) limit
    { ready, closing := setting.closing, capacity := setting.capacity }

/-- Why the pump of a state stopped, if it did. -/
def State.end? (s : State) : Option End :=
  match s.stage with
  | .stopped why => some why
  | _ => none

end Overseer.Telemetry.Pump
