-- SUMMARY: The shortest decimal text that reads back as a given binary64 number.
import Overseer.Number.Binary64

/-!
# Shortest decimals

The reals that round to a binary64 number form an interval. Among the decimals in it, `shortest` takes
one with the fewest digits, and of those the nearest.
-/

namespace Overseer

/-- The positive number `digits * 10 ^ exponent`. -/
structure Decimal where
  digits : Nat
  exponent : Int
  deriving DecidableEq, Repr

namespace Binary64

/-- The interval of reals that round to a positive number, in quarters of its unit in the last place:
    the two ends, and whether they belong to it. Below a power of two the lower half is half as
    wide. -/
def neighbourhood (x : Binary64) : Nat × Nat × Bool :=
  let lower := if x.mantissa = Width.count 52 ∧ minExponent < x.exponent then 1 else 2
  (4 * x.mantissa - lower, 4 * x.mantissa + 2, x.mantissa % 2 = 0)

/-- Whether `digits * 10 ^ place` rounds to `x`. -/
def holds (x : Binary64) (digits : Nat) (place : Int) : Bool :=
  let (low, high, closed) := x.neighbourhood
  let (a, b) := scaled 1 1 (x.exponent - 2)
  -- `digits * 10 ^ place` against `low * a / b` and `high * a / b`
  let value := digits * Nat.pow 10 place.toNat * b
  let unit := Nat.pow 10 (-place).toNat * a
  if closed then low * unit ≤ value && value ≤ high * unit
  else low * unit < value && value < high * unit

/-- The two points of the decimal grid `10 ^ place` around `x`, and whether the lower is nearer;
    a tie goes to the even digit. -/
def around (x : Binary64) (place : Int) : Nat × Bool :=
  let (num, den) := x.ratio
  let num := num * Nat.pow 10 (-place).toNat
  let den := den * Nat.pow 10 place.toNat
  let floor := num / den
  let rest := num % den
  (floor, 2 * rest < den || (2 * rest = den && floor % 2 = 0))

/-- The point of the grid `10 ^ place` nearest to `x` among those that round to it. -/
def onGrid? (x : Binary64) (place : Int) : Option Nat :=
  let (floor, lowerFirst) := x.around place
  let below := 0 < floor && x.holds floor place
  let above := x.holds (floor + 1) place
  match below, above with
  | true, true => some (if lowerFirst then floor else floor + 1)
  | true, false => some floor
  | false, true => some (floor + 1)
  | false, false => none

/-- An upper bound of the place of the first digit of `x`. -/
def topPlace (x : Binary64) : Int :=
  let (num, den) := x.ratio
  ((Nat.log2 num : Int) - Nat.log2 den + 1) * 30103 / 100000 + 1

/-- The first grid, from coarse to fine, that has a point which rounds to `x`. -/
def search (x : Binary64) : Nat → Int → Decimal
  | 0, place => ⟨(x.around place).1, place⟩
  | fuel + 1, place =>
    match x.onGrid? place with
    | some digits => ⟨digits, place⟩
    | none => search x fuel (place - 1)

/-- Drops trailing zeros of the digits. -/
def Decimal.trimmed (fuel : Nat) (d : Decimal) : Decimal :=
  match fuel with
  | 0 => d
  | fuel + 1 =>
    if d.digits % 10 = 0 ∧ d.digits ≠ 0 then trimmed fuel ⟨d.digits / 10, d.exponent + 1⟩ else d

/-- The shortest decimal that rounds to a positive number. Seventeen digits always suffice. -/
def shortest (x : Binary64) : Decimal :=
  Decimal.trimmed 20 (search x 20 x.topPlace)

/-! ## Text -/

/-- The text of a positive decimal: positional from 0.00001 up to sixteen digits before the point,
    scientific with a signed exponent otherwise. A point is always written in positional text. -/
def Decimal.text (d : Decimal) : String :=
  let digits := toString d.digits
  let count := digits.length
  let scale : Int := d.exponent + count - 1
  if -5 ≤ scale ∧ scale ≤ 15 then
    if 0 ≤ d.exponent then
      digits ++ String.ofList (List.replicate d.exponent.toNat '0') ++ ".0"
    else if 0 ≤ scale then
      let whole := scale.toNat + 1
      String.ofList (digits.toList.take whole) ++ "." ++ String.ofList (digits.toList.drop whole)
    else
      "0." ++ String.ofList (List.replicate (-scale - 1).toNat '0') ++ digits
  else
    let fraction := digits.toList.drop 1
    String.ofList (digits.toList.take 1)
      ++ (if fraction.isEmpty then "" else "." ++ String.ofList fraction)
      ++ "e" ++ (if 0 ≤ scale then "+" else "-") ++ toString scale.natAbs

/-- The text of a binary64 number. -/
def text (x : Binary64) : String :=
  (if x.negative then "-" else "") ++ (if x.isZero then "0.0" else Decimal.text x.shortest)

end Binary64

end Overseer
