-- SUMMARY: From the end of an invocation to success or a failed command.
import Overseer.Failure

/-!
# Verdicts

An invocation succeeded only if the runtime ended by itself with code 0. A failed command carries the
text of what the runtime printed, ill-formed octets replaced.
-/

namespace Overseer.Verdict

/-- The verdict on a status, with the output to be shown when it is bad. -/
def ofStatus (program : String) (exit : ExitStatus) (output : Bytes) : Except Failure Unit :=
  if exit.success then .ok ()
  else .error (.command program exit output.lossyText)

/-- The verdict on an invocation that a supervisor waited for. -/
def ofExit (program : String) (exit : Exit) (output : Bytes) : Except Failure Unit :=
  ofStatus program exit.exit output

/-- The standard output of an invocation that the client waited for itself. A failure shows standard
    output and then standard error. -/
def ofOutput (program : String) (wait : WaitStatus) (stdout stderr : Bytes) :
    Except Failure Bytes :=
  let exit := ExitStatus.ofWait wait
  match ofStatus program exit (if exit.success then stdout else stdout ++ stderr) with
  | .ok () => .ok stdout
  | .error why => .error why

end Overseer.Verdict
