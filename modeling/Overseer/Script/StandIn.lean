-- SUMMARY: Scripts that stand in for a runtime in tests.
import Overseer.Script.Shell

/-!
# Stand-ins

A stand-in is a script in a directory of its own that behaves like some runtime: it prints, records its
arguments, sleeps, or waits for SIGTERM. What it learns is left in files beside it.
-/

namespace Overseer

inductive StandIn where
  | script (body : String)
  /-- Becomes a process that sleeps. -/
  | sleeper (seconds : Nat)
  /-- Prints its arguments and fails. -/
  | echoArgs
  /-- Writes its arguments into a file, one a line. -/
  | recorder
  /-- Notes each SIGTERM and goes on. -/
  | termIgnorer
  /-- Notes a SIGTERM and ends well. -/
  | termHandler
  /-- Prints a text and ends with a code. -/
  | printer (text : String) (status : Int)
  deriving DecidableEq, Repr

namespace StandIn

/-! ## Files -/

/-- The executable of a stand-in that lives in `dir`. -/
def executable (dir : String) : String := dir ++ "/runtime"

def argsFile (dir : String) : String := dir ++ "/args"

/-- Exists once the handlers are in place. -/
def readyFile (dir : String) : String := dir ++ "/ready"

/-- The signals noted, one a line. -/
def signalsFile (dir : String) : String := dir ++ "/signals"

def outputFile (dir : String) : String := dir ++ "/stdout"

/-- A path in single quotes. -/
def quoted (path : String) : String := "'" ++ path ++ "'"

/-- The files that a stand-in has beside it from the start. -/
def initialFiles (dir : String) : StandIn → List (String × Bytes)
  | printer text _ => [(outputFile dir, .ofString text)]
  | _ => []

/-! ## Text -/

/-- A script that notes SIGTERM, does `afterwards`, and idles otherwise. -/
def trapping (dir afterwards : String) : String :=
  "trap \"echo TERM >> " ++ quoted (signalsFile dir) ++ afterwards ++ "\" TERM\ntouch "
    ++ quoted (readyFile dir) ++ "\nwhile :; do sleep 1 & wait $!; done"

def body (dir : String) : StandIn → String
  | script body => body
  | sleeper seconds => "exec /bin/sleep " ++ toString seconds
  | echoArgs => "echo \"$@\"\nexit 1"
  | recorder => "printf '%s\\n' \"$@\" > " ++ quoted (argsFile dir)
  | termIgnorer => trapping dir ""
  | termHandler => trapping dir "; exit 0"
  | printer _ status => "cat " ++ quoted (outputFile dir) ++ "\nexit " ++ toString status

/-- The whole text of the executable. -/
def text (dir : String) (s : StandIn) : String := "#!/bin/sh\n" ++ s.body dir ++ "\n"

/-! ## Running -/

/-- What a run with some arguments and empty input leaves. -/
def run (dir : String) (s : StandIn) (args : List String) : Shell.State :=
  Shell.run { name := executable dir, args } (s.initialFiles dir) (s.text dir)

/-- The arguments found in the file of a recorder. -/
def recordedArgs (dir : String) (state : Shell.State) : List String :=
  match state.files.find? (·.1 = argsFile dir) with
  | some (_, content) => Text.lines content.lossyText
  | none => []

/-- The stand-ins that wait, as behaviours of a runtime. -/
def behaviour : StandIn → Behaviour
  | sleeper _ => { waiting := some .plainly }
  | termIgnorer => { waiting := some .notingTerm }
  | termHandler => { waiting := some (.leaving 0) }
  | _ => {}

/-- How a waiting stand-in ends that gets SIGTERM and, if that does not end it, SIGKILL; and what it has
    noted. -/
def terminated (s : StandIn) : Option WaitStatus × List String :=
  let b := s.behaviour
  let got := if (b.process [.term]).isSome then [Signal.term] else [.term, .kill]
  (b.process got, (b.noted got).map fun _ => "TERM")

/-! ## Waiting for files -/

/-- Milliseconds between two looks at a file. -/
def pollInterval : Nat := 10

/-- Whether a file that is present at the given times, in milliseconds, is seen before time is up. It is
    looked at in intervals, and once more at the end. -/
def appears (present : Nat → Bool) (timeout : Nat) : Bool :=
  ((List.range ((timeout + pollInterval - 1) / pollInterval)).map (· * pollInterval)).any present
    || present timeout

end StandIn

end Overseer
