/-!
What a double-precision number stands for: a sign and an exact quotient of natural numbers.
-/

set_option autoImplicit false

namespace GatedMemory.Decimal

/-- The parts of a double. A finite one is `mantissa * 2 ^ exponent`, with its sign kept apart so
that zero has one too. -/
inductive Binary64 where
  | nan
  | infinite (negative : Bool)
  | finite (negative : Bool) (mantissa : Nat) (exponent : Int)
deriving DecidableEq

namespace Binary64

/-- The mantissa of a normal number has 53 bits, of which the first is not stored. -/
def hiddenBit : Nat := 1 <<< 52

/-- The exponent shared by the numbers below the normal range. -/
def leastExponent : Int := -1074

/-- Reads the sign bit, the 11 bits of the exponent and the 52 of the fraction. -/
def ofFloat (x : Float) : Binary64 :=
  let bits := x.toBits.toNat
  let negative := bits >>> 63 == 1
  let field : Nat := (bits >>> 52) % 2048
  let fraction := bits % hiddenBit
  if field = 2047 then
    if fraction = 0 then infinite negative else nan
  else if field = 0 then finite negative fraction leastExponent
  else finite negative (fraction + hiddenBit) (leastExponent + field - 1)

/-- A power of two as a numerator and a denominator. -/
def scale (exponent : Int) : Nat × Nat :=
  (1 <<< exponent.toNat, 1 <<< (-exponent).toNat)

/-- Double precision's nearest number to a count below `2 ^ 64`. -/
def ofCount (count : Nat) : Float :=
  count.toUInt64.toFloat

end Binary64

end GatedMemory.Decimal
