-- SUMMARY: The flags of single operations and the arguments they become.
import Overseer.Failure
import Overseer.Runtime.Argument
import Overseer.Runtime.Path

/-!
# Flags of operations

The runtime resolves a relative pid file against its own working directory, so it is made absolute
here. Everything else is passed on as it is written.
-/

namespace Overseer

/-- The flags of `create` and `run`. -/
structure CreateFlags where
  pidFile : Option String := none
  consoleSocket : Option String := none
  detach : Bool := false
  noPivot : Bool := false
  noNewKeyring : Bool := false
  extraArgs : List String := []
  deriving DecidableEq, Repr

/-- The flags of `exec`. -/
structure ExecFlags where
  pidFile : Option String := none
  consoleSocket : Option String := none
  detach : Bool := false
  extraArgs : List String := []
  deriving DecidableEq, Repr

/-- The flags of `kill`. -/
structure KillFlags where
  /-- Whether every process in the container gets the signal. -/
  all : Bool := false
  /-- A signal to be passed on as it is written; it wins over the number. -/
  rawSignal : Option String := none
  deriving DecidableEq, Repr

/-- The flags of `delete`. -/
structure DeleteFlags where
  force : Bool := false
  deriving DecidableEq, Repr

/-- The flag for the pid file, with the absolute path. -/
def pidFileArgs (cwd : String) (path : Option String) : Except Failure (List String) :=
  match path with
  | none => .ok []
  | some path =>
    match Path.absolute? cwd path with
    | some whole => .ok ["--pid-file", whole]
    | none =>
      .error (.invalidArgument ("pid file " ++ path ++ ": cannot make an empty path absolute"))

def CreateFlags.args (cwd : String) (f : CreateFlags) : Except Failure (List String) :=
  match pidFileArgs cwd f.pidFile with
  | .error why => .error why
  | .ok pidFile =>
    .ok (pidFile ++ flagWith "--console-socket" f.consoleSocket ++ flag "--no-pivot" f.noPivot
      ++ flag "--no-new-keyring" f.noNewKeyring ++ flag "--detach" f.detach ++ f.extraArgs)

def ExecFlags.args (cwd : String) (f : ExecFlags) : Except Failure (List String) :=
  match pidFileArgs cwd f.pidFile with
  | .error why => .error why
  | .ok pidFile =>
    .ok (flagWith "--console-socket" f.consoleSocket ++ flag "--detach" f.detach ++ pidFile
      ++ f.extraArgs)

def KillFlags.args (f : KillFlags) : List String := flag "--all" f.all

/-- The argument that stands for the signal. -/
def KillFlags.signalArg (f : KillFlags) (number : Int) : String :=
  match f.rawSignal with
  | some raw => if raw.isEmpty then toString number else raw
  | none => toString number

def DeleteFlags.args (f : DeleteFlags) : List String := flag "--force" f.force

end Overseer
