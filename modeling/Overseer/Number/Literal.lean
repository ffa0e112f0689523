-- SUMMARY: Decimal literals of bounded integers.
import Overseer.Number.Width

/-!
# Literals

An integer literal is an optional sign and one or more decimal digits, of which any number may be
leading zeros. A literal outside the bounds is refused as such.
-/

namespace Overseer.Literal

/-- Why a text is no literal of a bounded integer. -/
inductive Reason where
  | empty
  | invalidDigit
  | tooLarge
  | tooSmall
  deriving DecidableEq, Repr

def Reason.message : Reason → String
  | empty => "cannot parse integer from empty string"
  | invalidDigit => "invalid digit found in string"
  | tooLarge => "number too large to fit in target type"
  | tooSmall => "number too small to fit in target type"

/-- The integer between `low` and `high` with this sign and these digits, read from left to right up to
    the first character that is no digit or takes it out of bounds. -/
def accumulate (low high : Int) (positive : Bool) (value : Int) : List Char → Except Reason Int
  | [] => .ok value
  | c :: rest =>
    if c.isDigit then
      let digit : Int := c.toNat - 48
      let next := if positive then value * 10 + digit else value * 10 - digit
      if high < next then .error .tooLarge
      else if next < low then .error .tooSmall
      else accumulate low high positive next rest
    else .error .invalidDigit

/-- A sign, positive if there is none, and the digits. -/
def sign : List Char → Bool × List Char
  | '-' :: rest => (false, rest)
  | '+' :: rest => (true, rest)
  | cs => (true, cs)

/-- The integer between `low` and `high` that a text stands for. A minus sign is refused like any
    other character where nothing negative is admitted. -/
def bounded (low high : Int) (text : String) : Except Reason Int :=
  let cs := text.toList
  if cs.isEmpty then .error .empty
  else
    let (positive, ds) := if low < 0 ∨ cs.head? ≠ some '-' then sign cs else (true, cs)
    if ds.isEmpty then .error .invalidDigit else accumulate low high positive 0 ds

def int32? (text : String) : Option Int :=
  (bounded (Width.signedMin 32) (Width.signedMax 32) text).toOption

def uint64 (text : String) : Except Reason Nat :=
  (bounded 0 (Width.unsignedMax 64) text).map Int.toNat

end Overseer.Literal
