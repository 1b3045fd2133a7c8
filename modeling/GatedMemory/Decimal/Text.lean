import GatedMemory.Decimal.Round
import GatedMemory.Decimal.Shortest

/-!
Doubles as text: with the fewest digits that read back, or with a fixed number of places. Both are
written in full, never with an exponent.
-/

set_option autoImplicit false

namespace GatedMemory.Decimal

/-- The digits of a natural number. -/
def digits (n : Nat) : List Char :=
  Nat.toDigits 10 n

/-- The value `count * 10 ^ (-places)` with all its places. -/
def withPlaces (count places : Nat) : List Char :=
  let all := digits count
  let padded := List.replicate (places + 1 - all.length) '0' ++ all
  let whole := padded.take (padded.length - places)
  let fraction := padded.drop (padded.length - places)
  if places = 0 then whole else whole ++ '.' :: fraction

/-- The value `count * 10 ^ place`, written in full. -/
def positional (count : Nat) (place : Int) : List Char :=
  if 0 ≤ place then digits (count * Nat.pow 10 place.toNat) else withPlaces count (-place).toNat

/-- Puts a minus sign in front of the text of a negative number. -/
def signed (negative : Bool) (text : List Char) : String :=
  String.ofList (if negative then '-' :: text else text)

/-- The text of a number, given how the size of a finite one is written. -/
def textBy (size : Nat → Int → List Char) (x : Float) : String :=
  match Binary64.ofFloat x with
  | .nan => "NaN"
  | .infinite negative => signed negative "inf".toList
  | .finite negative mantissa exponent => signed negative (size mantissa exponent)

/-- The shortest text that reads back as the number; a whole number has no point. -/
def shortestText (x : Float) : String :=
  textBy (fun mantissa exponent =>
    let (count, place) := shortest mantissa exponent
    positional count place) x

/-- The number with exactly `places` places after the point, rounded from its exact value; a half
goes to the even neighbour. -/
def fixedText (places : Nat) (x : Float) : String :=
  textBy (fun mantissa exponent =>
    let (num, den) := Binary64.scale exponent
    withPlaces (roundDiv (mantissa * num * Nat.pow 10 places) den .toEven) places) x

end GatedMemory.Decimal
