-- SUMMARY: The compact and the indented text of JSON values.
import Overseer.Json.Value
import Overseer.Number.Shortest

/-!
# Printing

Compact text has no white space at all. Indented text puts every element and member on its own line,
two spaces deeper than its list or object. Members are printed in the order in which they stand.
-/

namespace Overseer.Json

/-! ## Strings and numbers -/

/-- How one character is written inside a string: quotes, backslashes and controls are escaped. -/
def escaped (c : Char) : List Char :=
  if c = '\x22' then ['\\', '\x22']
  else if c = '\\' then ['\\', '\\']
  else if c = '\x08' then ['\\', 'b']
  else if c = '\x0c' then ['\\', 'f']
  else if c = '\n' then ['\\', 'n']
  else if c = '\r' then ['\\', 'r']
  else if c = '\t' then ['\\', 't']
  else if c.toNat < 0x20 then
    ['\\', 'u', '0', '0', Nat.digitChar (c.toNat / 16), Nat.digitChar (c.toNat % 16)]
  else [c]

/-- The text of a string. -/
def quoted (s : String) : List Char := '\x22' :: s.toList.flatMap escaped ++ ['\x22']

def Number.text : Number → String
  | integer n => toString n
  | real x => x.text

/-! ## Compact text -/

namespace Value

mutual

/-- The compact text of a value. -/
def compact : Value → List Char
  | null => "null".toList
  | bool b => (if b then "true" else "false").toList
  | number n => n.text.toList
  | string s => quoted s
  | array elements => '[' :: compactElements elements ++ [']']
  | object members => '\x7b' :: compactMembers members ++ ['\x7d']

def compactElements : List Value → List Char
  | [] => []
  | [v] => compact v
  | v :: rest => compact v ++ ',' :: compactElements rest

def compactMembers : List (String × Value) → List Char
  | [] => []
  | [(key, v)] => quoted key ++ ':' :: compact v
  | (key, v) :: rest => quoted key ++ ':' :: compact v ++ ',' :: compactMembers rest

end

/-- The compact text of a value as a string. -/
def text (v : Value) : String := String.ofList v.compact

/-! ## Indented text -/

/-- A line break and the indentation of the given depth. -/
def lineAt (depth : Nat) : List Char := '\n' :: List.replicate (2 * depth) ' '

mutual

/-- The indented text of a value inside `depth` lists and objects. -/
def indented (depth : Nat) : Value → List Char
  | array [] => ['[', ']']
  | array elements => '[' :: indentedElements (depth + 1) elements ++ lineAt depth ++ [']']
  | object [] => ['\x7b', '\x7d']
  | object members => '\x7b' :: indentedMembers (depth + 1) members ++ lineAt depth ++ ['\x7d']
  | null => "null".toList
  | bool b => (if b then "true" else "false").toList
  | number n => n.text.toList
  | string s => quoted s

def indentedElements (depth : Nat) : List Value → List Char
  | [] => []
  | [v] => lineAt depth ++ indented depth v
  | v :: rest => lineAt depth ++ indented depth v ++ ',' :: indentedElements depth rest

def indentedMembers (depth : Nat) : List (String × Value) → List Char
  | [] => []
  | [(key, v)] => lineAt depth ++ quoted key ++ ':' :: ' ' :: indented depth v
  | (key, v) :: rest =>
    lineAt depth ++ quoted key ++ ':' :: ' ' :: indented depth v ++ ',' ::
      indentedMembers depth rest

end

/-- The indented text of a value as a string. -/
def prettyText (v : Value) : String := String.ofList (v.indented 0)

end Value

end Overseer.Json
