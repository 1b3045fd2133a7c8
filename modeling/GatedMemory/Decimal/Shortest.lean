import GatedMemory.Decimal.Binary64

/-!
The shortest decimal that reads back as a given double: of all decimals that are nearer to it than
to any other double, one with the fewest digits, and of those the nearest.
-/

set_option autoImplicit false

namespace GatedMemory.Decimal

/-- The decimals that read back as a double, as an interval around the double itself. All three
points are numerators over `den`. -/
structure Interval where
  low : Nat
  mid : Nat
  high : Nat
  den : Nat
  /-- The ends belong to the interval. -/
  closed : Bool

namespace Interval

/-- The interval of `mantissa * 2 ^ exponent`: halfway to each neighbour. The lower neighbour is
twice as near when the mantissa is the least normal one. An even mantissa wins both ties. -/
def ofFinite (mantissa : Nat) (exponent : Int) : Interval :=
  let (unit, den) := Binary64.scale (exponent - 2)
  let below :=
    if mantissa = Binary64.hiddenBit ∧ Binary64.leastExponent < exponent then 1 else 2
  { low := (4 * mantissa - below) * unit, mid := 4 * mantissa * unit,
    high := (4 * mantissa + 2) * unit, den, closed := mantissa % 2 == 0 }

/-- `num / den` lies in the interval, whose points are scaled by `factor`. -/
def holds (interval : Interval) (factor num : Nat) : Bool :=
  let low := interval.low * factor
  let high := interval.high * factor
  if interval.closed then low ≤ num && num ≤ high else low < num && num < high

/-- The multiple of `10 ^ place` in the interval that is nearest to its middle, counted in that
unit; of two equally near the larger. -/
def nearest? (interval : Interval) (place : Int) : Option Nat :=
  let factor := Nat.pow 10 (-place).toNat
  let step := interval.den * Nat.pow 10 place.toNat
  let mid := interval.mid * factor
  let count := mid / step
  let floor := count * step
  let ceiling := floor + step
  let useFloor := interval.holds factor floor
  let useCeiling := interval.holds factor ceiling
  if useFloor && (!useCeiling || mid - floor < ceiling - mid) then some count
  else if useCeiling then some (count + 1)
  else none

/-- The place of the first digit of a quotient below one, counted from `place` downwards. -/
def firstPlaceBelow (num den : Nat) : Nat → Int → Int
  | 0, place => place
  | fuel + 1, place => if den ≤ num then place else firstPlaceBelow (10 * num) den fuel (place - 1)

/-- The place of the first digit of the middle. -/
def firstPlace (interval : Interval) : Int :=
  if interval.den ≤ interval.mid then
    ((Nat.toDigits 10 (interval.mid / interval.den)).length : Int) - 1
  else firstPlaceBelow interval.mid interval.den 400 0

end Interval

/-- Digits and place of the shortest decimal for `mantissa * 2 ^ exponent`. Seventeen digits always
suffice, so one of the tried places has a hit. -/
def shortest (mantissa : Nat) (exponent : Int) : Nat × Int :=
  if mantissa = 0 then (0, 0)
  else
    let interval := Interval.ofFinite mantissa exponent
    let top := interval.firstPlace + 1
    let places := (List.range 19).map fun (offset : Nat) => top - offset
    (places.findSome? fun place => (interval.nearest? place).map (·, place)).getD (0, 0)

end GatedMemory.Decimal
