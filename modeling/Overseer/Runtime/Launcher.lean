-- SUMMARY: Command lines of the runtime.
import Overseer.Runtime.Settings

/-!
# Launching

A launcher makes the commands of one client: the executable with its global flags, whatever the
operation adds.
-/

namespace Overseer

def Signal.parseArgument (text : String) : Except Failure Signal :=
  match Signal.parse text with
  | .ok s => .ok s
  | .error why => .error (.invalidArgument why.message)

/-- A signal that may be unset. -/
def Signal.parseOption (text : Option String) : Except Failure (Option Signal) :=
  match text with
  | none => .ok none
  | some text =>
    match Signal.parseArgument text with
    | .ok s => .ok (some s)
    | .error why => .error why

/-- A program and its arguments. -/
structure Command where
  program : String
  args : List String
  deriving DecidableEq, Repr

namespace Command

/-- What stands for a word that cannot be passed to a process because it holds a zero octet. -/
def unpassable : String := "<string-with-nul>"

/-- A word as it is shown in a command. -/
def shown (word : String) : String := if word.contains '\x00' then unpassable else word

/-- Whether the words of a command can be passed to a process. -/
def isPassable (c : Command) : Bool := (c.program :: c.args).all fun word => !word.contains '\x00'

end Command

structure Launcher where
  program : String
  globalArgs : List String
  setpgid : Bool
  pdeathSignal : Option Signal
  deriving DecidableEq, Repr

namespace Launcher

def ofSettings (s : Settings) : Except Failure Launcher :=
  match Signal.parseOption s.pdeathSignal with
  | .error why => .error why
  | .ok pdeathSignal =>
    .ok { program := s.command, globalArgs := s.globalArgs, setpgid := s.setpgid, pdeathSignal }

/-- The command with the global flags in front of the given arguments. -/
def command (l : Launcher) (args : List String) : Command := ⟨l.program, l.globalArgs ++ args⟩

end Launcher

end Overseer
