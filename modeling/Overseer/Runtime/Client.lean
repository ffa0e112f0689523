-- SUMMARY: A client of a runtime: how it is made of settings and performs operations on a host.
import Overseer.Runtime.Capture
import Overseer.Runtime.Host
import Overseer.Runtime.Operation
import Overseer.Supervision.Monitored
import Overseer.Text.Quoted

/-!
# Clients

A client holds its settings, the launcher made of them, and the way it cancels what it supervises. Both
signals among the settings have to be known; of two bad ones that for cancelling is reported.
-/

namespace Overseer

structure Client where
  settings : Settings
  launcher : Launcher
  escalation : Escalation
  deriving DecidableEq, Repr

namespace Client

def ofSettings (s : Settings) : Except Failure Client :=
  match Escalation.ofSettings s.monitor with
  | .error why => .error why
  | .ok escalation =>
    match Launcher.ofSettings s with
    | .error why => .error why
    | .ok launcher => .ok ⟨s, launcher, escalation⟩

/-! ## Description -/

/-- A value that may be unset, as it is described. -/
def optional {α : Type} (describe : α → String) : Option α → String
  | some a => "Some(" ++ describe a ++ ")"
  | none => "None"

def truth (b : Bool) : String := if b then "true" else "false"

def formatName : LogFormat → String
  | .text => "Text"
  | .json => "Json"

/-- The fields of a record in braces behind its name. -/
def recordText (name : String) (fields : List (String × String)) : String :=
  name ++ " \x7b " ++ ", ".intercalate (fields.map fun (key, text) => key ++ ": " ++ text) ++ " \x7d"

def cancelText (c : CancelSettings) : String := recordText "MonitorOptions" [
  ("default_signal", optional Quoted.quote c.defaultSignal),
  ("kill_timeout_secs", toString c.killTimeoutSecs.toNat)]

def settingsText (s : Settings) : String := recordText "RuncOptions" [
  ("command", Quoted.quote s.command),
  ("root", optional Quoted.quote s.root),
  ("debug", truth s.debug),
  ("log", optional Quoted.quote s.log),
  ("log_format", optional formatName s.logFormat),
  ("systemd_cgroup", truth s.systemdCgroup),
  ("rootless", optional truth s.rootless),
  ("setpgid", truth s.setpgid),
  ("pdeath_signal", optional Quoted.quote s.pdeathSignal),
  ("monitor", cancelText s.monitor)]

/-- A description for developers, which shows the settings and hides the rest. -/
def description (c : Client) : String :=
  "Runc \x7b options: " ++ settingsText c.settings ++ ", .. \x7d"

/-! ## Supervised invocations on a host -/

/-- The pid that a host gives to the runtime. -/
def runtimePid : UInt32 := 1

/-- The process that supervision sees. A run that is cancelled before it starts gets its first signal
    at once. -/
def processOf (b : Behaviour) (cancel : Supervision.CancelTime) : Supervision.Process :=
  if cancel = .before then b.newborn else b.process

/-- The supervision of a runtime with the given behaviour. -/
def supervision (escalation : Escalation) (b : Behaviour) (cancel : Supervision.CancelTime) :
    Supervision.State :=
  Supervision.run runtimePid escalation (processOf b cancel) cancel

/-- The signals that the runtime got. -/
def received (s : Supervision.State) : List Signal := s.delivered.map (·.1)

/-- What the monitor of a client reports of a command on a host where the runtime has the given behaviour;
    nothing if the runtime never ends. -/
def report? (host : Host) (escalation : Escalation) (b : Behaviour)
    (cancel : Supervision.CancelTime) (c : Command) : Option Report :=
  match host.obstacle? c with
  | some why => some (.refused (.start (Command.shown c.program) why))
  | none => (supervision escalation b cancel).sent.head?.map (.ended runtimePid)

/-- What the runtime gets to write: nothing if a signal ends it before it has begun. -/
def written (escalation : Escalation) (b : Behaviour) (cancel : Supervision.CancelTime)
    (input : Bytes) : List Write :=
  if cancel = .before
      ∧ ((received (supervision escalation b cancel)).findSome? Signal.fatal?).isSome then []
  else b.output input

/-- The circumstances of one supervised invocation. -/
structure Setting where
  host : Host
  behaviour : Behaviour := {}
  cancel : Supervision.CancelTime := .never
  wiring : Wiring := {}
  /-- What the caller's descriptor for standard input holds. -/
  input : Bytes := []
  notice : Monitored.Notice := .unwanted

/-- What became of an operation. -/
structure Performance where
  /-- The course of the invocation; nothing if there was none. -/
  steps : List Monitored.Step := []
  notified : Option UInt32 := none
  /-- What the runtime wrote. -/
  writes : List Write := []
  result : Except Failure Exit

/-- Performs an operation with the given monitor on a runtime that writes `writes`. -/
def performWith (monitor : Monitor) (launcher : Launcher) (cwd : String) (op : Operation)
    (wiring : Wiring) (notice : Monitored.Notice) (writes : List Write) (leavesHolder : Bool) :
    Performance :=
  match op.args cwd with
  | .error why => { result := .error why }
  | .ok args =>
    let collected := Capture.ofWrites (wiring.captured writes) leavesHolder
    let course :=
      Monitored.run monitor launcher.program (launcher.command args) wiring notice collected
    { steps := course.steps, notified := course.notified
      writes := if course.started then writes else []
      result := course.result }

/-- Performs an operation on a host. Behind a runtime that never ends nothing comes of it. -/
def perform? (c : Client) (s : Setting) (op : Operation) : Option Performance :=
  match op.args s.host.cwd with
  | .error why => some { result := .error why }
  | .ok args =>
    (report? s.host c.escalation s.behaviour s.cancel (c.launcher.command args)).map fun report =>
      performWith (fun _ => report) c.launcher s.host.cwd op s.wiring s.notice
        (written c.escalation s.behaviour s.cancel (s.wiring.input s.input []))
        s.behaviour.leavesHolder

end Client

end Overseer
