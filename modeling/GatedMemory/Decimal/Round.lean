/-!
Quotients rounded to the nearest natural number.
-/

set_option autoImplicit false

namespace GatedMemory.Decimal

/-- Which neighbour a quotient goes to when it lies halfway between two numbers. -/
inductive Tie where
  | toEven
  | up
deriving DecidableEq

/-- The natural number nearest to `num / den`. -/
def roundDiv (num den : Nat) (tie : Tie) : Nat :=
  let quotient := num / den
  let twice := 2 * (num % den)
  if twice < den then quotient
  else if den < twice then quotient + 1
  else match tie with
    | .toEven => quotient + quotient % 2
    | .up => quotient + 1

end GatedMemory.Decimal
