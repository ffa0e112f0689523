-- SUMMARY: The settings of a client: global flags of the runtime and the way it is cancelled.
import Overseer.Failure
import Overseer.Json.Decoder
import Overseer.Runtime.Argument

/-!
# Settings

What every invocation of the runtime has in common. As JSON every setting may be missing and then has
its default; `null` is a value of its own for the settings that may be unset.
-/

namespace Overseer

open Json (Value)
open Json.Decoder (RecordField)

inductive LogFormat where
  | text
  | json
  deriving DecidableEq, Repr

def LogFormat.name : LogFormat → String
  | text => "text"
  | json => "json"

def LogFormat.decoder : Json.Decoder LogFormat := .variant [("text", text), ("json", json)] none

/-- How a supervised invocation is cancelled. -/
structure CancelSettings where
  /-- The signal sent first; without one the process is killed right away. -/
  defaultSignal : Option String := some "SIGTERM"
  /-- Seconds between the first signal and the kill; 0 never kills. -/
  killTimeoutSecs : UInt64 := 10
  deriving DecidableEq, Repr

structure Settings where
  /-- The runtime executable. -/
  command : String := "runc"
  root : Option String := none
  debug : Bool := false
  log : Option String := none
  logFormat : Option LogFormat := none
  systemdCgroup : Bool := false
  rootless : Option Bool := none
  /-- Whether the runtime gets a process group of its own. -/
  setpgid : Bool := false
  /-- The signal that the runtime gets when its parent dies. -/
  pdeathSignal : Option String := none
  monitor : CancelSettings := {}
  deriving DecidableEq, Repr

namespace CancelSettings

def fields : List (RecordField CancelSettings) := [
  .optional "default_signal" (.option .string) fun a r => { r with defaultSignal := a },
  .optional "kill_timeout_secs" .uint64 fun a r => { r with killTimeoutSecs := a }]

def decoder : Json.Decoder CancelSettings := .record "MonitorOptions" {} fields

def encode (c : CancelSettings) : Value := .object [
  ("default_signal", .ofOption .string c.defaultSignal),
  ("kill_timeout_secs", .nat c.killTimeoutSecs.toNat)]

end CancelSettings

namespace Settings

def fields : List (RecordField Settings) := [
  .optional "command" .string fun a r => { r with command := a },
  .optional "root" (.option .path) fun a r => { r with root := a },
  .optional "debug" .bool fun a r => { r with debug := a },
  .optional "log" (.option .path) fun a r => { r with log := a },
  .optional "log_format" (.option LogFormat.decoder) fun a r => { r with logFormat := a },
  .optional "systemd_cgroup" .bool fun a r => { r with systemdCgroup := a },
  .optional "rootless" (.option .bool) fun a r => { r with rootless := a },
  .optional "setpgid" .bool fun a r => { r with setpgid := a },
  .optional "pdeath_signal" (.option .string) fun a r => { r with pdeathSignal := a },
  .optional "monitor" CancelSettings.decoder fun a r => { r with monitor := a }]

def decoder : Json.Decoder Settings := .record "RuncOptions" {} fields

def encode (s : Settings) : Value := .object [
  ("command", .string s.command),
  ("root", .ofOption .string s.root),
  ("debug", .bool s.debug),
  ("log", .ofOption .string s.log),
  ("log_format", .ofOption (fun f => .string f.name) s.logFormat),
  ("systemd_cgroup", .bool s.systemdCgroup),
  ("rootless", .ofOption .bool s.rootless),
  ("setpgid", .bool s.setpgid),
  ("pdeath_signal", .ofOption .string s.pdeathSignal),
  ("monitor", s.monitor.encode)]

/-- Settings for an executable, everything else being default. -/
def ofCommand (command : String) : Settings := { command }

/-- The settings in a file, given its path and what reading it gave. -/
def ofFile (path : String) (content : Except SystemError Bytes) : Except Failure Settings :=
  match content with
  | .error source => .error (.io ("read config " ++ path) source)
  | .ok octets =>
    if octets.text?.isNone then
      .error (.io ("read config " ++ path) (.message "stream did not contain valid UTF-8"))
    else
      match decoder.ofText octets with
      | .ok settings => .ok settings
      | .error why => .error (.json ("parse config " ++ path) why)

/-- The flags that stand in front of the subcommand. -/
def globalArgs (s : Settings) : List String :=
  flagWith "--root" s.root
    ++ flag "--debug" s.debug
    ++ flagWith "--log" s.log
    ++ flagWith "--log-format" (s.logFormat.map LogFormat.name)
    ++ flag "--systemd-cgroup" s.systemdCgroup
    ++ flagSet "--rootless" s.rootless

end Settings

end Overseer
