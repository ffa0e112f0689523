-- SUMMARY: The version banner of a runtime.
import Overseer.Json.Decoder
import Overseer.Text.Blank

/-!
# Version banners

A banner starts with a line of at least three words, of which the second is `version` and the third the
release. Later lines may give the commit and the version of the specification; the last such line
counts. Without the first line nothing is trusted.
-/

namespace Overseer

structure Version where
  runtime : String := ""
  commit : String := ""
  spec : String := ""
  deriving DecidableEq, Repr

namespace Version

/-- The release that the first line of a banner gives. -/
def release? (line : String) : Option String :=
  match Text.words line with
  | _ :: word :: release :: _ => if word = "version" then some release else none
  | _ => none

/-- What one of the later lines adds. -/
def addLine (v : Version) (line : String) : Version :=
  match Text.strip? "commit:" line with
  | some commit => { v with commit := Text.trim commit }
  | none =>
    match Text.strip? "spec:" line with
    | some spec => { v with spec := Text.trim spec }
    | none => v

def ofBanner (text : String) : Version :=
  match Text.lines text with
  | [] => {}
  | first :: rest =>
    match release? first with
    | some release => rest.foldl addLine { runtime := release }
    | none => {}

open Json.Decoder (RecordField)

def fields : List (RecordField Version) := [
  .mandatory "runtime" .string fun a r => { r with runtime := a },
  .mandatory "commit" .string fun a r => { r with commit := a },
  .mandatory "spec" .string fun a r => { r with spec := a }]

def decoder : Json.Decoder Version := .record "Version" {} fields

def encode (v : Version) : Json.Value := .object [
  ("runtime", .string v.runtime), ("commit", .string v.commit), ("spec", .string v.spec)]

end Version

end Overseer
