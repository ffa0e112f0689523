-- SUMMARY: The description of a process to be run in a container, and its JSON form.
import Overseer.Json.Decoder
import Overseer.Json.Printer

/-!
# Process descriptions

What the runtime is told about a further process of a container. Only the user and the working directory
have to be given; what is not given is not written either. Capabilities are sets, written in the order
of their names.
-/

namespace Overseer

open Json (Value)
open Json.Decoder (RecordField)

namespace ProcessSpec

/-- The members that are given. -/
def given (members : List (String × Option Value)) : Value :=
  .object (members.filterMap fun (key, value) => value.map fun v => (key, v))

def strings (ss : List String) : Value := .array (ss.map .string)

/-! ## Capabilities -/

/-- The names of all capabilities, in alphabetical order. -/
def capabilityNames : List String := [
  "AUDIT_CONTROL", "AUDIT_READ", "AUDIT_WRITE", "BLOCK_SUSPEND", "BPF", "CHECKPOINT_RESTORE",
  "CHOWN", "DAC_OVERRIDE", "DAC_READ_SEARCH", "FOWNER", "FSETID", "IPC_LOCK", "IPC_OWNER", "KILL",
  "LEASE", "LINUX_IMMUTABLE", "MAC_ADMIN", "MAC_OVERRIDE", "MKNOD", "NET_ADMIN",
  "NET_BIND_SERVICE", "NET_BROADCAST", "NET_RAW", "PERFMON", "SETFCAP", "SETGID", "SETPCAP",
  "SETUID", "SYSLOG", "SYS_ADMIN", "SYS_BOOT", "SYS_CHROOT", "SYS_MODULE", "SYS_NICE", "SYS_PACCT",
  "SYS_PTRACE", "SYS_RAWIO", "SYS_RESOURCE", "SYS_TIME", "SYS_TTY_CONFIG", "WAKE_ALARM"]

/-- A name in capitals, without the leading `CAP_`. -/
def shortName (text : String) : String :=
  let upper := text.toList.map Char.toUpper
  String.ofList (if upper.take 4 = ['C', 'A', 'P', '_'] then upper.drop 4 else upper)

/-- The name of a capability, which may be written in letters of either case. -/
def capability (text : String) : Except Json.Mismatch String :=
  if capabilityNames.contains (shortName text) then .ok (shortName text)
  else .error (.content "Matching variant not found")

/-- A set of capabilities, as the list of their names in order. -/
def capabilitySet : Json.Decoder (List String) :=
  (Json.Decoder.list (Json.Decoder.string.refine capability)).map fun found =>
    capabilityNames.filter found.contains

def encodeSet (names : List String) : Value := strings (names.map ("CAP_" ++ ·))

structure Capabilities where
  bounding : Option (List String) := none
  effective : Option (List String) := none
  inheritable : Option (List String) := none
  permitted : Option (List String) := none
  ambient : Option (List String) := none
  deriving DecidableEq, Repr

namespace Capabilities

def fields : List (RecordField Capabilities) := [
  .optional "bounding" (.option capabilitySet) fun a r => { r with bounding := a },
  .optional "effective" (.option capabilitySet) fun a r => { r with effective := a },
  .optional "inheritable" (.option capabilitySet) fun a r => { r with inheritable := a },
  .optional "permitted" (.option capabilitySet) fun a r => { r with permitted := a },
  .optional "ambient" (.option capabilitySet) fun a r => { r with ambient := a }]

def decoder : Json.Decoder Capabilities := .record "LinuxCapabilities" {} fields

def encode (c : Capabilities) : Value := given [
  ("bounding", c.bounding.map encodeSet),
  ("effective", c.effective.map encodeSet),
  ("inheritable", c.inheritable.map encodeSet),
  ("permitted", c.permitted.map encodeSet),
  ("ambient", c.ambient.map encodeSet)]

/-- The same set for all five purposes. -/
def all (names : List String) : Capabilities :=
  ⟨some names, some names, some names, some names, some names⟩

end Capabilities

/-! ## Console, user, limits -/

/-- The size of a terminal in characters. -/
structure ConsoleSize where
  height : UInt64 := 0
  width : UInt64 := 0
  deriving DecidableEq, Repr

namespace ConsoleSize

def fields : List (RecordField ConsoleSize) := [
  .optional "height" .uint64 fun a r => { r with height := a },
  .optional "width" .uint64 fun a r => { r with width := a }]

def decoder : Json.Decoder ConsoleSize := .record "Box" {} fields

def encode (c : ConsoleSize) : Value :=
  .object [("height", .nat c.height.toNat), ("width", .nat c.width.toNat)]

end ConsoleSize

structure User where
  uid : Nat := 0
  gid : Nat := 0
  umask : Option Nat := none
  additionalGids : Option (List Nat) := none
  username : Option String := none
  deriving DecidableEq, Repr

namespace User

def fields : List (RecordField User) := [
  .optional "uid" (.unsigned 32) fun a r => { r with uid := a },
  .optional "gid" (.unsigned 32) fun a r => { r with gid := a },
  .optional "umask" (.option (.unsigned 32)) fun a r => { r with umask := a },
  .optional "additionalGids" (.option (.list (.unsigned 32))) fun a r =>
    { r with additionalGids := a },
  .optional "username" (.option .string) fun a r => { r with username := a }]

def decoder : Json.Decoder User := .record "User" {} fields

def encode (u : User) : Value := given [
  ("uid", some (.nat u.uid)),
  ("gid", some (.nat u.gid)),
  ("umask", u.umask.map .nat),
  ("additionalGids", u.additionalGids.map fun gids => .array (gids.map .nat)),
  ("username", u.username.map .string)]

end User

/-- The resources whose use can be limited. -/
def resourceNames : List String := [
  "RLIMIT_CPU", "RLIMIT_FSIZE", "RLIMIT_DATA", "RLIMIT_STACK", "RLIMIT_CORE", "RLIMIT_RSS",
  "RLIMIT_NPROC", "RLIMIT_NOFILE", "RLIMIT_MEMLOCK", "RLIMIT_AS", "RLIMIT_LOCKS",
  "RLIMIT_SIGPENDING", "RLIMIT_MSGQUEUE", "RLIMIT_NICE", "RLIMIT_RTPRIO", "RLIMIT_RTTIME"]

/-- One of some names. -/
def nameOf (names : List String) : Json.Decoder String :=
  .variant (names.map fun name => (name, name)) none

structure Limit where
  resource : String
  hard : UInt64 := 0
  soft : UInt64 := 0
  deriving DecidableEq, Repr

namespace Limit

def fields : List (RecordField Limit) := [
  .mandatory "type" (nameOf resourceNames) fun a r => { r with resource := a },
  .optional "hard" .uint64 fun a r => { r with hard := a },
  .optional "soft" .uint64 fun a r => { r with soft := a }]

def decoder : Json.Decoder Limit := .record "PosixRlimit" { resource := "" } fields

def encode (l : Limit) : Value := .object [
  ("type", .string l.resource), ("hard", .nat l.hard.toNat), ("soft", .nat l.soft.toNat)]

end Limit

/-! ## Scheduling -/

def int64 : Json.Decoder Int :=
  .integer (Width.signedMin 64) (Width.signedMax 64) "i64"

/-- The class and level at which a process does input and output. -/
structure IoPriority where
  level : String := "IOPRIO_CLASS_BE"
  priority : Int := 0
  deriving DecidableEq, Repr

namespace IoPriority

def fields : List (RecordField IoPriority) := [
  .optional "class" (nameOf ["IOPRIO_CLASS_RT", "IOPRIO_CLASS_BE", "IOPRIO_CLASS_IDLE"])
    fun a r => { r with level := a },
  .optional "priority" int64 fun a r => { r with priority := a }]

def decoder : Json.Decoder IoPriority := .record "LinuxIOPriority" {} fields

def encode (p : IoPriority) : Value :=
  .object [("class", .string p.level), ("priority", .int p.priority)]

end IoPriority

def policyNames : List String := [
  "SCHED_OTHER", "SCHED_FIFO", "SCHED_RR", "SCHED_BATCH", "SCHED_ISO", "SCHED_IDLE",
  "SCHED_DEADLINE"]

def schedulerFlagNames : List String := [
  "SCHED_FLAG_RESET_ON_FORK", "SCHED_FLAG_RECLAIM", "SCHED_FLAG_DL_OVERRUN",
  "SCHED_FLAG_KEEP_POLICY", "SCHED_FLAG_KEEP_PARAMS", "SCHED_FLAG_UTIL_CLAMP_MIN",
  "SCHED_FLAG_UTIL_CLAMP_MAX"]

/-- How a process is scheduled. -/
structure Scheduler where
  policy : String
  nice : Option Int32 := none
  priority : Option Int32 := none
  flags : Option (List String) := none
  runtime : Option UInt64 := none
  deadline : Option UInt64 := none
  period : Option UInt64 := none
  deriving DecidableEq

namespace Scheduler

def fields : List (RecordField Scheduler) := [
  .mandatory "policy" (nameOf policyNames) fun a r => { r with policy := a },
  .optional "nice" (.option .int32) fun a r => { r with nice := a },
  .optional "priority" (.option .int32) fun a r => { r with priority := a },
  .optional "flags" (.option (.list (nameOf schedulerFlagNames))) fun a r => { r with flags := a },
  .optional "runtime" (.option .uint64) fun a r => { r with runtime := a },
  .optional "deadline" (.option .uint64) fun a r => { r with deadline := a },
  .optional "period" (.option .uint64) fun a r => { r with period := a }]

def decoder : Json.Decoder Scheduler := .record "Scheduler" { policy := "" } fields

def encode (s : Scheduler) : Value := given [
  ("policy", some (.string s.policy)),
  ("nice", s.nice.map fun n => .int n.toInt),
  ("priority", s.priority.map fun n => .int n.toInt),
  ("flags", s.flags.map strings),
  ("runtime", s.runtime.map fun n => .nat n.toNat),
  ("deadline", s.deadline.map fun n => .nat n.toNat),
  ("period", s.period.map fun n => .nat n.toNat)]

end Scheduler

end ProcessSpec

/-! ## Processes -/

open ProcessSpec in
structure ProcessSpec where
  terminal : Option Bool := none
  consoleSize : Option ConsoleSize := none
  user : User
  args : Option (List String) := none
  commandLine : Option String := none
  env : Option (List String) := none
  cwd : String
  capabilities : Option Capabilities := none
  rlimits : Option (List Limit) := none
  noNewPrivileges : Option Bool := none
  apparmorProfile : Option String := none
  oomScoreAdj : Option Int32 := none
  selinuxLabel : Option String := none
  ioPriority : Option IoPriority := none
  scheduler : Option Scheduler := none
  deriving DecidableEq

namespace ProcessSpec

def fields : List (RecordField ProcessSpec) := [
  .optional "terminal" (.option .bool) fun a r => { r with terminal := a },
  .optional "consoleSize" (.option ConsoleSize.decoder) fun a r => { r with consoleSize := a },
  .mandatory "user" User.decoder fun a r => { r with user := a },
  .optional "args" (.option (.list .string)) fun a r => { r with args := a },
  .optional "commandLine" (.option .string) fun a r => { r with commandLine := a },
  .optional "env" (.option (.list .string)) fun a r => { r with env := a },
  .mandatory "cwd" .path fun a r => { r with cwd := a },
  .optional "capabilities" (.option Capabilities.decoder) fun a r => { r with capabilities := a },
  .optional "rlimits" (.option (.list Limit.decoder)) fun a r => { r with rlimits := a },
  .optional "noNewPrivileges" (.option .bool) fun a r => { r with noNewPrivileges := a },
  .optional "apparmorProfile" (.option .string) fun a r => { r with apparmorProfile := a },
  .optional "oomScoreAdj" (.option .int32) fun a r => { r with oomScoreAdj := a },
  .optional "selinuxLabel" (.option .string) fun a r => { r with selinuxLabel := a },
  .optional "ioPriority" (.option IoPriority.decoder) fun a r => { r with ioPriority := a },
  .optional "scheduler" (.option Scheduler.decoder) fun a r => { r with scheduler := a }]

def decoder : Json.Decoder ProcessSpec := .record "Process" { user := {}, cwd := "" } fields

def encode (p : ProcessSpec) : Value := given [
  ("terminal", p.terminal.map .bool),
  ("consoleSize", p.consoleSize.map (·.encode)),
  ("user", some p.user.encode),
  ("args", p.args.map strings),
  ("commandLine", p.commandLine.map .string),
  ("env", p.env.map strings),
  ("cwd", some (.string p.cwd)),
  ("capabilities", p.capabilities.map (·.encode)),
  ("rlimits", p.rlimits.map fun ls => .array (ls.map (·.encode))),
  ("noNewPrivileges", p.noNewPrivileges.map .bool),
  ("apparmorProfile", p.apparmorProfile.map .string),
  ("oomScoreAdj", p.oomScoreAdj.map fun n => .int n.toInt),
  ("selinuxLabel", p.selinuxLabel.map .string),
  ("ioPriority", p.ioPriority.map (·.encode)),
  ("scheduler", p.scheduler.map (·.encode))]

/-- A shell of the superuser with few capabilities. -/
def shell : ProcessSpec where
  terminal := some false
  user := {}
  args := some ["sh"]
  env := some ["PATH=/usr/local/sbin:/usr/local/bin:/usr/sbin:/usr/bin:/sbin:/bin", "TERM=xterm"]
  cwd := "/"
  capabilities := some (.all ["AUDIT_WRITE", "KILL", "NET_BIND_SERVICE"])
  rlimits := some [⟨"RLIMIT_NOFILE", 1024, 1024⟩]
  noNewPrivileges := some true

end ProcessSpec

end Overseer
