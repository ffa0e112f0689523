-- SUMMARY: The command line of the supervisor: its commands, options and defaults.
import Overseer.CommandLine.Grammar
import Overseer.Runtime.Flags
import Overseer.Runtime.Settings

/-!
# Invocations

What one call of the program asks for. The global options are known at both levels and outrank the
settings of the configuration file.
-/

namespace Overseer.CommandLine

/-- The name of the program. -/
def programName : String := "runcvisor"

def programVersion : String := "0.6.0"

/-! ## Grammar -/

def globalOptions : List Opt := [
  { long := "runtime", value := some .text, envName := some "RUNCVISOR_RUNTIME" },
  { long := "root", value := some .path, envName := some "RUNCVISOR_ROOT" },
  { long := "config", value := some .path, envName := some "RUNCVISOR_CONFIG" },
  { long := "debug" },
  { long := "systemd-cgroup" },
  { long := "kill-timeout", value := some (.number 0) },
  { long := "verbose", short := some 'v' }]

/-- The other names of subcommands. -/
def canonical (subcommand : String) : String :=
  if subcommand = "ls" then "list" else if subcommand = "rm" then "delete" else subcommand

/-- The options and operands of a subcommand, the global options apart. -/
def ownShape (subcommand : String) : Shape :=
  match canonical subcommand with
  | "list" => { options := [
      { long := "format", short := some 'f', value := some (.choice ["table", "json"]) },
      { long := "quiet", short := some 'q' }] }
  | "ps" => { options := [{ long := "json" }], operands := { required := 1, limit := some 1 } }
  | "events" => {
      options := [{ long := "interval", value := some (.number 1) }]
      operands := { required := 1, limit := some 1 } }
  | "state" | "stats" => { options := [], operands := { required := 1, limit := some 1 } }
  | "kill" => {
      options := [{ long := "all", short := some 'a' }]
      operands := { required := 1, limit := some 2 } }
  | "delete" => {
      options := [{ long := "force", short := some 'f' }]
      operands := { required := 1, limit := none } }
  | "start" | "pause" | "resume" => { options := [], operands := { required := 1, limit := none } }
  | "run" => {
      options := [
        { long := "bundle", short := some 'b', value := some .path },
        { long := "detach", short := some 'd' },
        { long := "pid-file", value := some .path },
        { long := "no-pivot" },
        { long := "no-new-keyring" }]
      operands := { required := 1, limit := some 1, behindDashes := true } }
  | _ => { options := [] }

def innerShape (subcommand : String) : Shape :=
  let own := ownShape subcommand
  { own with options := own.options ++ globalOptions, page := some (canonical subcommand) }

def topShape : Shape where
  options := globalOptions
  subcommands := ["state", "list", "ls", "ps", "events", "stats", "kill", "delete", "rm", "start",
    "pause", "resume", "run", "version", helpName]
  hasVersion := true

/-! ## Invocations -/

/-- What the command line says about the client. -/
structure GlobalFlags where
  runtime : Option String := none
  root : Option String := none
  config : Option String := none
  debug : Bool := false
  systemdCgroup : Bool := false
  killTimeout : Option Nat := none
  verbose : Bool := false
  deriving DecidableEq, Repr

inductive ListFormat where
  | table
  | json
  deriving DecidableEq, Repr

/-- The operations that take several containers and are alike but for their name. -/
inductive Lifecycle where
  | start
  | pause
  | resume
  deriving DecidableEq, Repr

namespace Lifecycle

def verb : Lifecycle → String
  | start => "start"
  | pause => "pause"
  | resume => "resume"

end Lifecycle

inductive Action where
  | state (id : String)
  | list (format : ListFormat) (quiet : Bool)
  | processes (id : String) (json : Bool)
  | events (id : String) (interval : Nat)
  | stats (id : String)
  | kill (id signal : String) (all : Bool)
  | delete (targets : List String) (force : Bool)
  | lifecycle (which : Lifecycle) (targets : List String)
  | run (id bundle : String) (flags : CreateFlags)
  | version
  deriving DecidableEq, Repr

structure Invocation where
  flags : GlobalFlags
  action : Action
  deriving DecidableEq, Repr

namespace Invocation

/-- The number that a checked text stands for. -/
def numberOf (text : String) : Nat := ((Literal.uint64 text).toOption).getD 0

def flagsOf (r : Reading) : GlobalFlags where
  runtime := r.global? "runtime"
  root := r.global? "root"
  config := r.global? "config"
  debug := (r.global? "debug").isSome
  systemdCgroup := (r.global? "systemd-cgroup").isSome
  killTimeout := (r.global? "kill-timeout").map numberOf
  verbose := (r.global? "verbose").isSome

def actionOf (r : Reading) : Action :=
  let l := r.inner
  let id := l.operands.headD ""
  match canonical r.subcommand with
  | "state" => .state id
  | "list" => .list (if l.value? "format" = some "json" then .json else .table) (l.has "quiet")
  | "ps" => .processes id (l.has "json")
  | "events" => .events id (((l.value? "interval").map numberOf).getD 5)
  | "stats" => .stats id
  | "kill" => .kill id ((l.operands[1]?).getD "SIGTERM") (l.has "all")
  | "delete" => .delete l.operands (l.has "force")
  | "start" => .lifecycle .start l.operands
  | "pause" => .lifecycle .pause l.operands
  | "resume" => .lifecycle .resume l.operands
  | "run" => .run id ((l.value? "bundle").getD ".") {
      pidFile := l.value? "pid-file", detach := l.has "detach", noPivot := l.has "no-pivot"
      noNewKeyring := l.has "no-new-keyring", extraArgs := l.rest }
  | _ => .version

/-- The invocation that some arguments and an environment stand for. -/
def ofArgs (env : String → Option String) (args : List String) : Except Stop Invocation :=
  match read programName env topShape innerShape args with
  | .error stop => .error stop
  | .ok r => .ok ⟨flagsOf r, actionOf r⟩

end Invocation

/-! ## Settings -/

/-- The settings of a configuration with the flags laid over them. -/
def GlobalFlags.over (g : GlobalFlags) (s : Settings) : Settings :=
  let cancel : CancelSettings :=
    match g.killTimeout with
    | some seconds => { s.monitor with killTimeoutSecs := UInt64.ofNat seconds }
    | none => s.monitor
  { s with
    command := g.runtime.getD s.command
    root := g.root.or s.root
    debug := g.debug || s.debug
    systemdCgroup := g.systemdCgroup || s.systemdCgroup
    monitor := cancel }

/-- The settings of an invocation, given how files are read. -/
def GlobalFlags.settings (g : GlobalFlags) (file : String → Except SystemError Bytes) :
    Except Failure Settings :=
  match g.config with
  | none => .ok (g.over {})
  | some path =>
    match Settings.ofFile path (file path) with
    | .error why => .error why
    | .ok s => .ok (g.over s)

end Overseer.CommandLine
