-- SUMMARY: Commands for several containers: every one is attempted, and every failure is accounted for.
import Overseer.CommandLine.Outcome
import Overseer.CommandLine.World

/-!
# Targets

A command for several containers makes one invocation for each of them, in the order given, whatever
failed before. The containers that it worked for are printed; the others are complained about one by one
and once more in the end. An invocation that never ends keeps those behind it from being made.
-/

namespace Overseer.CommandLine

/-- What became of one target. -/
structure Attempt where
  target : String
  result : Except Failure Unit

namespace Attempt

/-- Attempts an operation on every target, up to the first that never ends. -/
def all (w : World) (client : Client) (op : String → Operation) :
    List String → Option (List Attempt) × World
  | [] => (some [], w)
  | target :: rest =>
    match w.perform client {} (op target) with
    | (none, w) => (none, w)
    | (some p, w) =>
      let (attempts, w) := all w client op rest
      (attempts.map (⟨target, p.result.map fun _ => ()⟩ :: ·), w)

section

variable {w v : World} {client : Client} {op : String → Operation} {target : String}
  {rest : List String}

theorem all_cons {p : Client.Performance} (performed : w.perform client {} (op target) = (some p, v)) :
    all w client op (target :: rest)
      = ((all v client op rest).1.map (⟨target, p.result.map fun _ => ()⟩ :: ·),
        (all v client op rest).2) := by
  simp only [all, performed]

theorem all_cons_endless (endless : w.perform client {} (op target) = (none, v)) :
    all w client op (target :: rest) = (none, v) := by
  simp only [all, endless]

end

/-- The target, if it worked. -/
def success? (a : Attempt) : Option String :=
  match a.result with
  | .ok () => some a.target
  | .error _ => none

/-- The target and what went wrong. -/
def failure? (a : Attempt) : Option (String × Failure) :=
  match a.result with
  | .ok () => none
  | .error f => some (a.target, f)

/-- One line for each target that it worked for. -/
def successText (attempts : List Attempt) : String :=
  String.join ((attempts.filterMap success?).map (· ++ "\n"))

/-- One complaint for each target that it did not work for. -/
def failureText (complain : String → Failure → String) (attempts : List Attempt) : String :=
  String.join ((attempts.filterMap failure?).map fun (target, f) => complain target f ++ "\n")

/-- What is said in the end about the failures. -/
def summary (verb : String) (attempts : List Attempt) : String :=
  let failures := attempts.filterMap failure?
  let count := failures.length
  let successes := (attempts.filterMap success?).length
  let head :=
    if 0 < successes then
      "Failed to " ++ verb ++ " " ++ toString count ++ " of " ++ toString (count + successes)
        ++ " container(s)"
    else "Failed to " ++ verb ++ " all " ++ toString count ++ " container(s)"
  head ++ "\nErrors:\n  "
    ++ "\n  ".intercalate (failures.map fun (target, f) => target ++ ": " ++ f.message)

/-- The ending of a command for several targets. -/
def ending (complain : String → Failure → String) (summary : List Attempt → String)
    (attempts : List Attempt) : Ending where
  stdout := .ofString (successText attempts)
  stderr := .ofString (failureText complain attempts)
  problem :=
    if (attempts.filterMap failure?).isEmpty then none else some (.summary (summary attempts))

end Attempt

/-- Starts, pauses or resumes containers. -/
def Lifecycle.operation : Lifecycle → String → Operation
  | .start => .start
  | .pause => .pause
  | .resume => .resume

def Lifecycle.ending (l : Lifecycle) (attempts : List Attempt) : Ending :=
  Attempt.ending
    (fun target f =>
      "Error: failed to " ++ l.verb ++ " container '" ++ target ++ "': " ++ f.message)
    (Attempt.summary l.verb) attempts

/-- The ending of a deletion. -/
def deleteEnding (attempts : List Attempt) : Ending :=
  Attempt.ending
    (fun target f => "Error deleting container '" ++ target ++ "': " ++ f.message)
    (fun _ => "Some containers could not be deleted") attempts

end Overseer.CommandLine
