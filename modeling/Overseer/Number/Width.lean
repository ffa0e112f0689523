-- SUMMARY: The ranges of integers of a fixed number of bits.

/-!
# Widths

Integers of `bits` bits, unsigned ones from 0 on and signed ones around 0.
-/

namespace Overseer.Width

/-- How many integers there are of so many bits. -/
def count (bits : Nat) : Nat := Nat.pow 2 bits

def unsignedMax (bits : Nat) : Nat := count bits - 1

def signedMax (bits : Nat) : Int := (count (bits - 1) : Int) - 1

def signedMin (bits : Nat) : Int := -(count (bits - 1) : Int)

end Overseer.Width
