-- SUMMARY: Containers as the runtime reports them.
import Overseer.Calendar.Moment
import Overseer.Json.Decoder
import Overseer.Json.Printer

/-!
# Containers

The state of a container. Its identity, status and time of creation are always reported; everything
else has a default. A status that is not known is `unknown`.
-/

namespace Overseer

open Json (Value)
open Json.Decoder (RecordField)

inductive ContainerStatus where
  | created
  | running
  | pausing
  | paused
  | stopped
  | unknown
  deriving DecidableEq, Repr

namespace ContainerStatus

def name : ContainerStatus → String
  | created => "created"
  | running => "running"
  | pausing => "pausing"
  | paused => "paused"
  | stopped => "stopped"
  | unknown => "unknown"

def known : List (String × ContainerStatus) :=
  [created, running, pausing, paused, stopped].map fun s => (s.name, s)

def decoder : Json.Decoder ContainerStatus := .variant known (some unknown)

end ContainerStatus

structure Container where
  id : String
  /-- The first process of the container, 0 once it has stopped. -/
  pid : Int32 := 0
  status : ContainerStatus
  bundle : String := ""
  rootfs : String := ""
  created : Calendar.Moment
  annotations : Dictionary String := .empty
  deriving DecidableEq

namespace Container

/-- The first moment of the year zero; it stands for a moment that has not been decoded yet. -/
def origin : Calendar.Moment := ⟨⟨0, 1, 1, by decide⟩, 0, 0, by decide, by decide⟩

def moment (text : String) : Except Json.Mismatch Calendar.Moment :=
  match Calendar.Moment.parse text with
  | .ok m => .ok m
  | .error why => .error (.content why.message)

def momentDecoder : Json.Decoder Calendar.Moment :=
  (Json.Decoder.stringFor "an RFC 3339 formatted date and time string").refine moment

def fields : List (RecordField Container) := [
  .mandatory "id" .string fun a r => { r with id := a },
  .optional "pid" .int32 fun a r => { r with pid := a },
  .mandatory "status" ContainerStatus.decoder fun a r => { r with status := a },
  .optional "bundle" .string fun a r => { r with bundle := a },
  .optional "rootfs" .string fun a r => { r with rootfs := a },
  .mandatory "created" momentDecoder fun a r => { r with created := a },
  .optional "annotations" (.dictionary .string) fun a r => { r with annotations := a }]

def decoder : Json.Decoder Container :=
  .record "Container" { id := "", status := .unknown, created := origin } fields

def encode (c : Container) : Value := .object [
  ("id", .string c.id),
  ("pid", .int c.pid.toInt),
  ("status", .string c.status.name),
  ("bundle", .string c.bundle),
  ("rootfs", .string c.rootfs),
  ("created", .string c.created.text),
  ("annotations", .object (c.annotations.entries.map fun (key, text) => (key, .string text)))]

end Container

end Overseer
