/-!
From a decimal to the nearest double.
-/

set_option autoImplicit false

namespace GatedMemory.Decimal

/-- Every decimal with more digits before the point than this exceeds all doubles. -/
def overflowDigits : Int := 310

/-- Every decimal with its first digit further behind the point than this rounds to zero. -/
def underflowDigits : Int := -330

/-- The double nearest to `count * 10 ^ place`. Values far outside the range of doubles are
decided by their size alone, so that no huge power is ever computed. -/
def nearestFloat (count : Nat) (place : Int) : Float :=
  let size := ((Nat.toDigits 10 count).length : Int) + place
  if count = 0 ∨ size < underflowDigits then 0
  else if overflowDigits < size then 1 / 0
  else if 0 ≤ place then Float.ofScientific count false place.toNat
  else Float.ofScientific count true (-place).toNat

end GatedMemory.Decimal
