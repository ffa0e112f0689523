-- SUMMARY: Described worlds for calls of the program, and their JSON form.
import Overseer.CommandLine.Run

/-!
# Rehearsals

A call of the program touches a host, its files and a runtime. A rehearsal describes them, so that the
call can be played through without starting anything. Whatever a description leaves out is as in a
world with a runtime that is found, prints nothing and succeeds.
-/

namespace Overseer.CommandLine

open Json.Decoder (RecordField)

structure Rehearsal where
  cwd : String := "/"
  programs : List String := ["runc"]
  refused : List String := []
  /-- The contents of the files that there are. -/
  files : Dictionary String := .empty
  /-- What the starts of the runtime do, one after the other. -/
  behaviours : List Behaviour := []
  interrupts : Bool := false
  /-- The time as log lines show it. -/
  time : String := "1970-01-01T00:00:00.000000Z"

/-! ## JSON form of behaviours -/

def uint8Decoder : Json.Decoder UInt8 := (Json.Decoder.unsigned 8).map UInt8.ofNat

def writeDecoder : Json.Decoder Write :=
  .record "Write" ⟨.stdout, []⟩ [
    .optional "stream" (.variant [("stdout", .stdout), ("stderr", .stderr)] none)
      fun a r => { r with stream := a },
    .mandatory "text" .string fun a r => { r with octets := .ofString a }]

/-- A runtime waits plainly unless it notes SIGTERM or leaves with a code on it. -/
def waitingDecoder : Json.Decoder Waiting :=
  .record "Waiting" .plainly [
    .optional "noting" .bool fun a w => if a then .notingTerm else w,
    .optional "leaving" (.option uint8Decoder) fun a w =>
      match a with
      | some code => .leaving code
      | none => w]

def behaviourFields : List (RecordField Behaviour) := [
  .optional "writes" (.list writeDecoder) fun a r => { r with writes := a },
  .optional "echoes" .bool fun a r => { r with echoes := a },
  .optional "leaves_holder" .bool fun a r => { r with leavesHolder := a },
  .optional "waiting" (.option waitingDecoder) fun a r => { r with waiting := a },
  .optional "own_signal" (.option (.unsigned 7)) fun a r => { r with ownSignal := a },
  .optional "code" uint8Decoder fun a r => { r with code := a },
  .optional "wait_status" (.option (.unsigned 32)) fun a r =>
    { r with otherEnd := a.map fun bits => ⟨UInt32.ofNat bits⟩ }]

def behaviourDecoder : Json.Decoder Behaviour := .record "Behaviour" {} behaviourFields

/-! ## Rehearsals -/

namespace Rehearsal

def fields : List (RecordField Rehearsal) := [
  .optional "cwd" .path fun a r => { r with cwd := a },
  .optional "programs" (.list .path) fun a r => { r with programs := a },
  .optional "refused" (.list .path) fun a r => { r with refused := a },
  .optional "files" (.dictionary .string) fun a r => { r with files := a },
  .optional "behaviours" (.list behaviourDecoder) fun a r => { r with behaviours := a },
  .optional "interrupts" .bool fun a r => { r with interrupts := a },
  .optional "time" .string fun a r => { r with time := a }]

def decoder : Json.Decoder Rehearsal := .record "Rehearsal" {} fields

/-- The contents of a file of the described host. -/
def file (r : Rehearsal) (path : String) : Except SystemError Bytes :=
  match r.files.entries.get? path with
  | some text => .ok (.ofString text)
  | none => .error .notFound

def world (r : Rehearsal) : World where
  host := ⟨r.cwd, r.programs, r.refused⟩
  behaviours := r.behaviours
  interrupts := r.interrupts

/-- Plays a call through; nothing if it never ends. -/
def play (r : Rehearsal) (env : String → Option String) (args : List String) : Option Outcome :=
  (call env r.file r.time r.world args).1

end Rehearsal

end Overseer.CommandLine
