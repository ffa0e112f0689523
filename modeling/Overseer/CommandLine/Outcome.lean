-- SUMMARY: What a call of the program prints and the code it exits with.
import Overseer.CommandLine.Invocation
import Overseer.Runtime.Behaviour

/-!
# Outcomes

A call that fails prints its problem with all causes. Where a command of the runtime has failed, the
program exits with the status of that command, else with 1; a command line that is no good gives 2. A call
that asks for help is a success, and an outcome names its page instead of holding the text.
-/

namespace Overseer.CommandLine

/-- Why a call of the program fails. -/
inductive Problem where
  | failure (f : Failure)
  /-- What is said in the end about several targets. -/
  | summary (text : String)
  deriving DecidableEq, Repr

namespace Problem

/-- The problem with all causes behind it. -/
def text : Problem → String
  | failure f => ": ".intercalate (f.message :: f.sources)
  | summary text => text

/-- The code that the program exits with. -/
def code : Problem → Nat
  | failure f =>
    if f.isCommandExit && (1 ≤ f.exitStatus && f.exitStatus ≤ 255) then f.exitStatus.toNat else 1
  | summary _ => 1

end Problem

/-- What a command has printed and how it has ended. -/
structure Ending where
  stdout : Bytes := []
  stderr : Bytes := []
  problem : Option Problem := none
  deriving DecidableEq, Repr

namespace Ending

def printing (text : String) : Ending := { stdout := .ofString text }

def failing (f : Failure) : Ending := { problem := some (.failure f) }

/-- Prints a text in front of everything else. -/
def after (text : String) (e : Ending) : Ending :=
  { e with stdout := Bytes.ofString text ++ e.stdout }

/-- Prints what an operation brought, or fails with it. -/
def ofResult {α : Type} (print : α → String) : Except Failure α → Ending
  | .ok a => printing (print a)
  | .error f => failing f

end Ending

/-- A page of help that is printed. -/
structure HelpPage where
  /-- The subcommand that it is about; the whole program if there is none. -/
  subcommand : Option String
  stream : OutStream
  deriving DecidableEq, Repr

/-- A finished call of the program. -/
structure Outcome where
  code : Nat
  stdout : Bytes := []
  stderr : Bytes := []
  /-- A page of help that stands on one of the streams besides. -/
  help : Option HelpPage := none
  deriving DecidableEq, Repr

namespace Outcome

/-- The outcome of a command that has ended. -/
def ofEnding (e : Ending) : Outcome :=
  match e.problem with
  | none => { code := 0, stdout := e.stdout, stderr := e.stderr }
  | some why => {
      code := why.code
      stdout := e.stdout
      stderr := e.stderr ++ Bytes.ofString ("Error: " ++ why.text ++ "\n") }

/-- The outcome of a command line that asks for nothing that can be run. Of a complaint only the first
    line is given. -/
def ofStop : Stop → Outcome
  | .version => { code := 0, stdout := .ofString (programName ++ " " ++ programVersion ++ "\n") }
  | .help subcommand => { code := 0, help := some ⟨subcommand, .stdout⟩ }
  | .nothing => { code := 2, help := some ⟨none, .stderr⟩ }
  | .usage why => { code := 2, stderr := .ofString ("error: " ++ why.message ++ "\n") }

end Outcome

end Overseer.CommandLine
