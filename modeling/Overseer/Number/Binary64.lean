-- SUMMARY: Binary64 numbers in exact arithmetic: rounding of ratios, product, quotient.
import Overseer.Number.Width

/-!
# Binary64

A finite binary64 number is a sign and an exact value `mantissa * 2 ^ exponent`. All rounding goes
through `ofRatio?`, which takes the nearest number, ties to the even mantissa.
-/

namespace Overseer

/-- A finite binary64 number. -/
structure Binary64 where
  negative : Bool
  mantissa : Nat
  exponent : Int
  deriving DecidableEq, Repr

namespace Binary64

/-- The exponent of the smallest subnormal number. -/
def minExponent : Int := -1074

/-- The exponent of the largest finite numbers, whose mantissa has 53 bits. -/
def maxExponent : Int := 971

def zero : Binary64 := ⟨false, 0, minExponent⟩

def neg (x : Binary64) : Binary64 := { x with negative := !x.negative }

def isZero (x : Binary64) : Bool := x.mantissa = 0

/-- `num / den` rounded to the nearest integer, a tie to the even one. -/
def roundDiv (num den : Nat) : Nat :=
  let q := num / den
  let r := num % den
  if 2 * r < den then q
  else if den < 2 * r then q + 1
  else if q % 2 = 0 then q
  else q + 1

/-- The ratio `num / den * 2 ^ shift` as a pair of naturals. -/
def scaled (num den : Nat) (shift : Int) : Nat × Nat :=
  (num * Nat.pow 2 shift.toNat, den * Nat.pow 2 (-shift).toNat)

/-- The floor of the binary logarithm of a positive ratio. -/
def floorLog2 (num den : Nat) : Int :=
  let guess : Int := (Nat.log2 num : Int) - Nat.log2 den
  let (a, b) := scaled num den (-guess)
  if b ≤ a then guess else guess - 1

/-- The nonnegative ratio `num / den` as a binary64 number; `none` where it is too large for one. -/
def ofRatio? (num den : Nat) : Option Binary64 :=
  if num = 0 then some zero
  else
    let exponent := max (floorLog2 num den - 52) minExponent
    let (a, b) := scaled num den (-exponent)
    let mantissa := roundDiv a b
    let (mantissa, exponent) :=
      if mantissa = Width.count 53 then (Width.count 52, exponent + 1) else (mantissa, exponent)
    if maxExponent < exponent then none
    else some ⟨false, mantissa, exponent⟩

/-- The magnitude of a number as a ratio. -/
def ratio (x : Binary64) : Nat × Nat := scaled x.mantissa 1 x.exponent

/-- The binary64 number next to a natural number that is far from the largest one. -/
def ofNat (n : Nat) : Binary64 := (ofRatio? n 1).getD zero

/-- The binary64 number next to `10 ^ n`, for `n` up to 308. -/
def powerOfTen (n : Nat) : Binary64 := ofNat (Nat.pow 10 n)

/-- The rounded product of two magnitudes. -/
def mul? (x y : Binary64) : Option Binary64 :=
  ofRatio? (x.ratio.1 * y.ratio.1) (x.ratio.2 * y.ratio.2)

/-- The rounded quotient of two magnitudes. -/
def div? (x y : Binary64) : Option Binary64 :=
  ofRatio? (x.ratio.1 * y.ratio.2) (x.ratio.2 * y.ratio.1)

end Binary64

end Overseer
