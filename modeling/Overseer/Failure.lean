-- SUMMARY: What can go wrong when a runtime is driven, and how it is reported.
import Overseer.Json.Fault
import Overseer.Supervision.Exit
import Overseer.SystemError

/-!
# Failures

Only a failed command has an exit status of its own; any other failure reports -1.
-/

namespace Overseer

inductive Failure where
  /-- The runtime could not be started. -/
  | start (program : String) (source : SystemError)
  /-- The runtime ran and did not end well; `output` is what it printed. -/
  | command (program : String) (exit : ExitStatus) (output : String)
  | io (context : String) (source : SystemError)
  | json (context : String) (source : Json.Diagnosis)
  | invalidArgument (text : String)
  | cancelled
  | internal (text : String)
  deriving DecidableEq, Repr

namespace Failure

/-- The status reported for a failure that is no command exit. -/
def notACommandExit : Int := -1

def message : Failure → String
  | start program source => "failed to start " ++ program ++ ": " ++ source.text
  | command program exit output =>
    program ++ " did not terminate successfully: " ++ exit.text ++ ": " ++ output
  | io context source => context ++ ": " ++ source.text
  | json context source => context ++ ": " ++ source.message
  | invalidArgument text => "invalid argument: " ++ text
  | cancelled => "operation cancelled"
  | internal text => "internal: " ++ text

/-- The texts of the causes behind a failure, outermost first. -/
def sources : Failure → List String
  | start _ source => [source.text]
  | command _ exit _ => [exit.text]
  | io _ source => [source.text]
  | json _ source => [source.message]
  | _ => []

def exitStatus : Failure → Int
  | command _ exit _ => exit.status
  | _ => notACommandExit

def exitSignal : Failure → Option Signal
  | command _ exit _ => exit.signal
  | _ => none

def isCommandExit : Failure → Bool
  | command .. => true
  | _ => false

/-- The status of a finished operation: 0 if it succeeded. -/
def extractStatus {α : Type} : Except Failure α → Int
  | .ok _ => 0
  | .error f => f.exitStatus

end Failure

end Overseer
