import GatedMemory.Decimal.Reading
import GatedMemory.Toml.Text
import GatedMemory.Toml.Value

/-!
Numbers. Digits may be set apart by single underscores. Integers are signed 64-bit words, decimal
or with a base marked in front; numbers with a fraction or an exponent are doubles.
-/

set_option autoImplicit false

namespace GatedMemory.Toml

/-- The value of a digit in a base of at most sixteen. -/
def digitValue? (base : Nat) (c : Char) : Option Nat :=
  (hexValue? c).filter (· < base)

/-- Further digits of a number, each perhaps after one underscore, as long as there are any. The
result is the text's value read on from `value`, and the number of digits. -/
def moreDigits (base : Nat) (value count : Nat) : List Char → (Nat × Nat) × List Char
  | '_' :: c :: rest =>
    match digitValue? base c with
    | some digit => moreDigits base (base * value + digit) (count + 1) rest
    | none => ((value, count), '_' :: c :: rest)
  | c :: rest =>
    match digitValue? base c with
    | some digit => moreDigits base (base * value + digit) (count + 1) rest
    | none => ((value, count), c :: rest)
  | [] => ((value, count), [])

/-- At least one digit, leading zeros allowed: the value and the number of digits. -/
def digitRun (base : Nat) : Reader (Nat × Nat)
  | [] => none
  | c :: rest => do
    let digit ← digitValue? base c
    return moreDigits base digit 1 rest

/-- A sign, if there is one: whether it is a minus. -/
def sign : List Char → Bool × List Char
  | '-' :: rest => (true, rest)
  | '+' :: rest => (false, rest)
  | text => (false, text)

/-- A decimal number without leading zeros. -/
def wholePart : Reader Nat
  | '0' :: rest => some (0, rest)
  | text => do
    let ((value, _), rest) ← digitRun 10 text
    return (value, rest)

/-- A point and the digits behind it: their value and their number. -/
def fractionPart : Reader (Nat × Nat)
  | '.' :: rest => digitRun 10 rest
  | _ => none

/-- An exponent of ten. -/
def exponentPart : Reader Int
  | 'e' :: rest | 'E' :: rest => do
    let (negative, rest) := sign rest
    let ((value, _), rest) ← digitRun 10 rest
    return (if negative then -value else value, rest)
  | _ => none

/-- A double with the given sign. -/
def signedFloat (negative : Bool) (size : Float) : Float :=
  if negative then -size else size

/-- What follows the whole part of a double: a fraction, an exponent, or both. The result is the
size of the number. -/
def floatTail (whole : Nat) : Reader Float := fun text =>
  match fractionPart text with
  | some ((fraction, places), rest) =>
    let count := whole * Nat.pow 10 places + fraction
    match rest with
    | 'e' :: _ | 'E' :: _ => do
      let (exponent, rest) ← exponentPart rest
      return (Decimal.nearestFloat count (exponent - places), rest)
    | _ => some (Decimal.nearestFloat count (-(places : Int)), rest)
  | none => do
    let (exponent, rest) ← exponentPart text
    return (Decimal.nearestFloat whole exponent, rest)

/-- A double by name: infinity, or no number. -/
def namedFloat : Reader Float
  | 'i' :: 'n' :: 'f' :: rest => some (1 / 0, rest)
  | 'n' :: 'a' :: 'n' :: rest => some (0 / 0, rest)
  | _ => none

/-- A finite double in digits; one that is too large for a double is refused, unless it is
negative. -/
def digitFloat : Reader Float := fun text => do
  let (negative, text) := sign text
  let (whole, text) ← wholePart text
  let (size, rest) ← floatTail whole text
  if !negative && size == 1 / 0 then none else some (signedFloat negative size, rest)

/-- A double by name, with a sign. -/
def signedNamedFloat : Reader Float := fun text => do
  let (negative, text) := sign text
  let (size, rest) ← namedFloat text
  return (signedFloat negative size, rest)

/-- An integer has to be a signed 64-bit word. -/
def int64? (number : Int) : Option Int :=
  if Int64.minValue.toInt ≤ number ∧ number ≤ Int64.maxValue.toInt then some number else none

/-- An integer in a marked base, without a sign. -/
def basedInteger (base : Nat) : Reader Int := fun text => do
  let ((value, _), rest) ← digitRun base text
  return (← int64? value, rest)

/-- A decimal integer. -/
def decimalInteger : Reader Int := fun text => do
  let (negative, text) := sign text
  let (value, rest) ← wholePart text
  return (← int64? (if negative then -value else value), rest)

/-- An integer. -/
def integer : Reader Int
  | '0' :: 'x' :: rest => basedInteger 16 rest
  | '0' :: 'o' :: rest => basedInteger 8 rest
  | '0' :: 'b' :: rest => basedInteger 2 rest
  | text => decimalInteger text

/-- A number: a double where one can be read, else an integer. -/
def number : Reader Value := fun text =>
  match digitFloat text <|> signedNamedFloat text with
  | some (value, rest) => some (.float value, rest)
  | none => (integer text).map fun (value, rest) => (.integer value, rest)

end GatedMemory.Toml
