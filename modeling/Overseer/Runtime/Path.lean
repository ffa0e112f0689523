-- SUMMARY: Making paths absolute.

/-!
# Absolute paths

A path is made absolute without looking at the file system: empty components and `.` go, `..` stays, and
a slash at the end stays. Two slashes in front are kept, more become one.
-/

namespace Overseer.Path

/-- The parts between the slashes; `part` is the unfinished one, its last character in front. -/
def split (part : List Char) : List Char → List (List Char)
  | [] => [part.reverse]
  | c :: cs => if c = '/' then part.reverse :: split [] cs else split (c :: part) cs

/-- The components that name something. -/
def components (cs : List Char) : List (List Char) :=
  (split [] cs).filter fun part => part ≠ [] ∧ part ≠ ['.']

/-- Appends a component behind exactly one slash. -/
def push (base component : List Char) : List Char :=
  if base.getLast? = some '/' then base ++ component else base ++ '/' :: component

/-- What the components of a path are appended to. -/
def base (cwd cs : List Char) : List Char :=
  match cs with
  | '/' :: '/' :: '/' :: _ => ['/']
  | '/' :: '/' :: _ => ['/', '/']
  | '/' :: _ => ['/']
  | _ => cwd

/-- The absolute form of a path; an empty path has none. -/
def absolute? (cwd path : String) : Option String :=
  let cs := path.toList
  if cs.isEmpty then none
  else
    let whole := (components cs).foldl push (base cwd.toList cs)
    some (String.ofList
      (if cs.getLast? = some '/' ∧ whole.getLast? ≠ some '/' then whole ++ ['/'] else whole))

end Overseer.Path
