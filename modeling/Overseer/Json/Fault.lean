-- SUMMARY: What can be wrong with a JSON text or value, where, and how it is worded.
import Overseer.Json.Value
import Overseer.Number.Shortest
import Overseer.Text.Quoted
import Overseer.Text.Utf8

/-!
# Faults

A text is malformed, or it is well formed and holds something else than was asked for. A fault in a
text carries its place as the number of octets left, so that it does not depend on what stands before
the text that is read; `Fault.position` turns the place into line and column.
-/

namespace Overseer.Json

/-! ## Malformed text -/

/-- What a text ended in. -/
inductive Unfinished where
  | value
  | list
  | object
  | string
  deriving DecidableEq, Repr

/-- Why a text is no JSON. -/
inductive Malformed where
  | ended (inside : Unfinished)
  | expectedValue
  | expectedIdent
  | expectedColon
  | expectedListComma
  | expectedObjectComma
  | trailingComma
  | trailingCharacters
  | keyNotString
  | invalidNumber
  | numberOutOfRange
  | invalidEscape
  | unexpectedEndOfHexEscape
  | loneSurrogate
  | controlCharacter
  | invalidCodePoint
  | recursionLimit
  deriving DecidableEq, Repr

def Unfinished.name : Unfinished → String
  | value => "a value"
  | list => "a list"
  | object => "an object"
  | string => "a string"

def Malformed.message : Malformed → String
  | ended inside => "EOF while parsing " ++ inside.name
  | expectedValue => "expected value"
  | expectedIdent => "expected ident"
  | expectedColon => "expected `:`"
  | expectedListComma => "expected `,` or `]`"
  | expectedObjectComma => "expected `,` or `\x7d`"
  | trailingComma => "trailing comma"
  | trailingCharacters => "trailing characters"
  | keyNotString => "key must be a string"
  | invalidNumber => "invalid number"
  | numberOutOfRange => "number out of range"
  | invalidEscape => "invalid escape"
  | unexpectedEndOfHexEscape => "unexpected end of hex escape"
  | loneSurrogate => "lone leading surrogate in hex escape"
  | controlCharacter => "control character (\\u0000-\\u001F) found while parsing a string"
  | invalidCodePoint => "invalid unicode code point"
  | recursionLimit => "recursion limit exceeded"

/-! ## Unsuitable content -/

/-- What stands where something else is wanted. -/
inductive Found where
  | null
  | bool (value : Bool)
  | number (value : Number)
  | string (value : String)
  | sequence
  | map
  deriving DecidableEq, Repr

def Found.text : Found → String
  | null => "null"
  | bool b => "boolean `" ++ (if b then "true" else "false") ++ "`"
  | number (.integer n) => "integer `" ++ toString n ++ "`"
  | number (.real x) => "floating point `" ++ x.text ++ "`"
  | string s => "string " ++ Quoted.quote s
  | sequence => "sequence"
  | map => "map"

def Value.found : Value → Found
  | null => .null
  | bool b => .bool b
  | number n => .number n
  | string s => .string s
  | array _ => .sequence
  | object _ => .map

/-- Why a JSON value is not the encoding of what was asked for. -/
inductive Mismatch where
  | invalidType (found : Found) (expected : String)
  | invalidValue (found : Found) (expected : String)
  | invalidLength (length : Nat) (expected : String)
  | missingField (name : String)
  | duplicateField (name : String)
  | unknownVariant (name : String) (expected : List String)
  /-- A string whose content does not follow the rules of what it encodes. -/
  | content (message : String)
  deriving DecidableEq, Repr

/-- The list of admitted names: two are joined by `or`, more follow `one of`. -/
def Mismatch.alternatives : List String → String
  | [] => "there are no variants"
  | [a] => "expected `" ++ a ++ "`"
  | [a, b] => "expected `" ++ a ++ "` or `" ++ b ++ "`"
  | names => "expected one of " ++ ", ".intercalate (names.map fun name => "`" ++ name ++ "`")

def Mismatch.message : Mismatch → String
  | invalidType found expected => "invalid type: " ++ found.text ++ ", expected " ++ expected
  | invalidValue found expected => "invalid value: " ++ found.text ++ ", expected " ++ expected
  | invalidLength length expected => "invalid length " ++ toString length ++ ", expected " ++ expected
  | missingField name => "missing field `" ++ name ++ "`"
  | duplicateField name => "duplicate field `" ++ name ++ "`"
  | unknownVariant name expected => "unknown variant `" ++ name ++ "`, " ++ alternatives expected
  | content message => message

/-! ## Faults in a text -/

inductive Cause where
  | malformed (why : Malformed)
  | mismatch (why : Mismatch)
  deriving DecidableEq, Repr

def Cause.message : Cause → String
  | malformed why => why.message
  | mismatch why => why.message

/-- A fault in a text: `left` octets of the text are left. A fault seen by looking ahead at the first
    of them is placed on that octet, any other fault in front of it. -/
structure Fault where
  cause : Cause
  left : Nat
  ahead : Bool
  deriving DecidableEq, Repr

namespace Fault

/-- A fault of form at the octets `rest`, seen by looking ahead. -/
def peeked (why : Malformed) (rest : Bytes) : Fault := ⟨.malformed why, rest.length, true⟩

/-- A fault of form in what stands before the octets `rest`. -/
def behind (why : Malformed) (rest : Bytes) : Fault := ⟨.malformed why, rest.length, false⟩

/-- Unsuitable content before the octets `rest`. -/
def unsuitable (why : Mismatch) (rest : Bytes) : Fault := ⟨.mismatch why, rest.length, false⟩

/-- Whether more text could mend the fault: the text ended too early. -/
def isUnfinished (f : Fault) : Bool :=
  match f.cause with
  | .malformed (.ended _) => true
  | _ => false

end Fault

/-- A line, counted from 1, and the number of octets before a place on that line. -/
structure Position where
  line : Nat
  column : Nat
  deriving DecidableEq, Repr

/-- The position behind the first `index` octets of a text. -/
def Position.at (text : Bytes) (index : Nat) : Position :=
  let before := text.take index
  ⟨before.count 0x0A + 1, (before.reverse.takeWhile (· ≠ 0x0A)).length⟩

/-- The position of a fault in a text. -/
def Fault.position (f : Fault) (text : Bytes) : Position :=
  let index := text.length - f.left
  Position.at text (if f.ahead then min text.length (index + 1) else index)

/-- What is wrong with a text, and where. -/
structure Diagnosis where
  cause : Cause
  position : Position
  deriving DecidableEq, Repr

def Diagnosis.message (d : Diagnosis) : String :=
  d.cause.message ++ " at line " ++ toString d.position.line
    ++ " column " ++ toString d.position.column

/-- The fault, placed in the text that was read. -/
def Fault.diagnosis (f : Fault) (text : Bytes) : Diagnosis := ⟨f.cause, f.position text⟩

end Overseer.Json
