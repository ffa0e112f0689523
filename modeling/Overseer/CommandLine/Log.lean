-- SUMMARY: Log lines, and the filter that says which of them are shown.
import Overseer.Telemetry.Intake

/-!
# Log

A filter is a list of directives, each of which gives the lowest level shown for the targets that begin
with a word, or for all targets. The directive with the longest matching word counts. A filter that
cannot be read is as good as none. Lines are drawn in colour unless the environment asks for plain text.

Of the lines that the program can log, those about noise in a stream of events are described here. Left
out are the lines of level debug, which hold pids, the warning about an event process that has come to a bad
end, which may come too late to be written, and what is said of a system call that fails.
-/

namespace Overseer.CommandLine.Log

inductive Level where
  | off
  | error
  | warn
  | info
  | debug
  | trace
  deriving DecidableEq, Repr

namespace Level

def rank : Level → Nat
  | off => 0
  | error => 1
  | warn => 2
  | info => 3
  | debug => 4
  | trace => 5

/-- A level by its name, in letters of either case, or its number. -/
def ofText? (text : String) : Option Level :=
  match String.ofList (text.toList.map Char.toLower) with
  | "off" | "0" => some off
  | "error" | "1" => some error
  | "warn" | "2" => some warn
  | "info" | "3" => some info
  | "debug" | "4" => some debug
  | "trace" | "5" => some trace
  | _ => none

end Level

/-- The lowest level shown for the targets that begin with `target`. -/
structure Directive where
  target : String
  level : Level
  deriving DecidableEq, Repr

abbrev Filter := List Directive

/-- Whether a text can be the beginning of a target. -/
def isTarget (text : String) : Bool :=
  !text.isEmpty && text.toList.all fun c => c.isAlphanum || c = '_' || c = ':' || c = '-'

/-- A level for all targets, a target with a level, or a target that shows everything. -/
def Directive.ofText? (text : String) : Option Directive :=
  match text.splitOn "=" with
  | [one] =>
    match Level.ofText? one with
    | some level => some ⟨"", level⟩
    | none => if isTarget one then some ⟨one, .trace⟩ else none
  | [target, level] =>
    if isTarget target then
      if level.isEmpty then some ⟨target, .trace⟩
      else (Level.ofText? level).map fun level => ⟨target, level⟩
    else none
  | _ => none

namespace Filter

/-- Warnings and errors. -/
def standard : Filter := [⟨"", .warn⟩]

/-- Everything but the finest details. -/
def verbose : Filter := [⟨"", .debug⟩]

/-- The filter that a text stands for; an empty one shows errors. -/
def ofText? (text : String) : Option Filter :=
  match (text.splitOn ",").filter (!·.isEmpty) with
  | [] => some [⟨"", .error⟩]
  | pieces => pieces.mapM Directive.ofText?

/-- The filter of a program, given the setting of the environment. -/
def choose (setting : Option String) (isVerbose : Bool) : Filter :=
  (setting.bind ofText?).getD (if isVerbose then verbose else standard)

/-- The level shown for a target. -/
def levelOf (f : Filter) (target : String) : Level :=
  let best := (f.filter fun d => target.startsWith d.target).foldl
    (fun (best : Option Directive) d =>
      match best with
      | some b => if b.target.length ≤ d.target.length then some d else best
      | none => some d)
    none
  match best with
  | some d => d.level
  | none => .off

def shows (f : Filter) (level : Level) (target : String) : Bool :=
  level.rank ≤ (f.levelOf target).rank

end Filter

/-- The target of what is said about event streams. -/
def streamTarget : String := "runcvisor::events::stream"

/-- How log lines are drawn. -/
inductive Look where
  | plain
  | coloured
  deriving DecidableEq, Repr

namespace Look

/-- The look that a variable of the environment asks for. -/
def choose (noColour : Option String) : Look :=
  if noColour.getD "" = "" then coloured else plain

/-- A text in a style, which is reset behind it. -/
def draw (look : Look) (style text : String) : String :=
  match look with
  | plain => text
  | coloured => "\x1b[" ++ style ++ "m" ++ text ++ "\x1b[0m"

def dim (look : Look) (text : String) : String := look.draw "2" text

def slanted (look : Look) (text : String) : String := look.draw "3" text

def yellow (look : Look) (text : String) : String := look.draw "33" text

end Look

/-- A warning, given the time as it is to be shown. -/
def warning (look : Look) (time target message : String) (fields : List (String × String)) :
    String :=
  look.dim time ++ " " ++ look.yellow " WARN" ++ " " ++ look.dim target ++ look.dim ":" ++ " "
    ++ message
    ++ String.join (fields.map fun (key, text) => " " ++ look.slanted key ++ look.dim "=" ++ text)
    ++ "\n"

/-- What is said about the noise in the stream of a container. -/
def noiseText (f : Filter) (look : Look) (time id : String) (noise : List Telemetry.Noise) :
    String :=
  if f.shows .warn streamTarget then
    String.join (noise.map fun why =>
      warning look time streamTarget "Skipping malformed event"
        [("container_id", id), ("error", why.message)])
  else ""

end Overseer.CommandLine.Log
