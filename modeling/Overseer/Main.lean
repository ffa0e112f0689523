-- SUMMARY: The program: plays a call of the supervisor through in a described world.
import Overseer.CommandLine.Rehearsal

/-!
# The program

The arguments and the environment are those of the process itself. The world that the call meets is
described as JSON on standard input; an empty input describes the plainest one.
-/

open Overseer Overseer.CommandLine

/-- The variables that a call looks at. -/
def readEnvironment : IO (String → Option String) := do
  let names := "RUST_LOG" :: "NO_COLOR" :: globalOptions.filterMap (·.envName)
  let values ← names.mapM fun name => return (name, ← IO.getEnv name)
  return fun name => (values.lookup name).join

/-- Everything up to the end of a stream. -/
partial def readAll (input : IO.FS.Stream) (before : ByteArray) : IO ByteArray := do
  let piece ← input.read 65536
  if piece.isEmpty then return before else readAll input (before ++ piece)

def writeBytes (output : IO.FS.Stream) (octets : Bytes) : IO Unit :=
  output.write ⟨octets.toArray⟩

def main (args : List String) : IO UInt32 := do
  let env ← readEnvironment
  let description : Bytes := (← readAll (← IO.getStdin) .empty).toList
  let found : Except Json.Diagnosis Rehearsal :=
    if description.isEmpty then .ok {} else Rehearsal.decoder.ofText description
  match found with
  | .error why =>
    (← IO.getStderr).putStrLn ("no description of a world: " ++ why.message)
    return 2
  | .ok rehearsal =>
    match rehearsal.play env args with
    | none =>
      (← IO.getStderr).putStrLn "the call never ends"
      return 2
    | some outcome =>
      writeBytes (← IO.getStdout) outcome.stdout
      writeBytes (← IO.getStderr) outcome.stderr
      if let some page := outcome.help then
        let stream ← if page.stream = .stdout then IO.getStdout else IO.getStderr
        stream.putStrLn ("page of help: " ++ page.subcommand.getD programName)
      return UInt32.ofNat outcome.code
