-- SUMMARY: Building argument lists.

/-!
# Arguments
-/

namespace Overseer

/-- A flag that stands alone. -/
def flag (name : String) (on : Bool) : List String := if on then [name] else []

/-- A flag with a value behind it. -/
def flagWith (name : String) (value : Option String) : List String :=
  match value with
  | some v => [name, v]
  | none => []

/-- A flag and its value in one argument. -/
def flagSet (name : String) (value : Option Bool) : List String :=
  match value with
  | some v => [name ++ "=" ++ if v then "true" else "false"]
  | none => []

end Overseer
