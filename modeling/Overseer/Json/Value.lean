-- SUMMARY: JSON values.
import Overseer.Dictionary
import Overseer.Number.Binary64

/-!
# JSON values

A number literal without fraction and exponent is an integer where it fits 64 bits, signed or
unsigned; every other number is a binary64 number.
-/

namespace Overseer.Json

inductive Number where
  | integer (value : Int)
  | real (value : Binary64)
  deriving DecidableEq, Repr

/-- A JSON value. A value read from a text keeps the members of its objects in key order, one for each
    key; a value made to be printed keeps them in the order of printing. -/
inductive Value where
  | null
  | bool (value : Bool)
  | number (value : Number)
  | string (value : String)
  | array (elements : List Value)
  | object (members : List (String × Value))

namespace Value

instance : Inhabited Value := ⟨null⟩

instance : Coe String Value := ⟨string⟩

def nat (n : Nat) : Value := .number (.integer n)

def int (n : Int) : Value := .number (.integer n)

/-- The member of an object under a key. -/
def get? (v : Value) (key : String) : Option Value :=
  match v with
  | object members => (members.find? (·.1 = key)).map (·.2)
  | _ => none

/-- `null` for nothing. -/
def ofOption {α : Type} (encode : α → Value) : Option α → Value
  | none => null
  | some a => encode a

def isObject : Value → Bool
  | object _ => true
  | _ => false

/-- The name of the kind of a value. -/
def kind : Value → String
  | null => "null"
  | bool _ => "boolean"
  | number _ => "number"
  | string _ => "string"
  | array _ => "array"
  | object _ => "object"

end Value

end Overseer.Json
