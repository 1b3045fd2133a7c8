import GatedMemory.Toml.Blank

/-!
Dates and times. A document that holds one is well formed only if the date exists.
-/

set_option autoImplicit false

namespace GatedMemory.Toml

/-- Exactly `count` decimal digits, added to the digits read before. -/
def fixedDigits : Nat → Nat → Reader Nat
  | 0, value, text => some (value, text)
  | _ + 1, _, [] => none
  | count + 1, value, c :: rest =>
    if c.isDigit then fixedDigits count (10 * value + (c.toNat - '0'.toNat)) rest else none

/-- Two digits between two bounds. -/
def twoDigits (low high : Nat) : Reader Nat := fun text => do
  let (value, rest) ← fixedDigits 2 0 text
  if low ≤ value ∧ value ≤ high then some (value, rest) else none

/-- One given character. -/
def skipChar? (c : Char) : List Char → Option (List Char)
  | d :: rest => if c == d then some rest else none
  | [] => none

/-- Years with a 29th of February. -/
def isLeapYear (year : Nat) : Bool :=
  year % 4 == 0 && (year % 100 != 0 || year % 400 == 0)

/-- The last day of a month. -/
def lastDay (year month : Nat) : Nat :=
  if month = 2 then if isLeapYear year then 29 else 28
  else if month = 4 ∨ month = 6 ∨ month = 9 ∨ month = 11 then 30
  else 31

/-- A date: four digits of a year, two of a month, two of a day. -/
def skipDate? (text : List Char) : Option (List Char) := do
  let (year, text) ← fixedDigits 4 0 text
  let (month, text) ← twoDigits 1 12 (← skipChar? '-' text)
  let (_, text) ← twoDigits 1 (lastDay year month) (← skipChar? '-' text)
  return text

/-- A fraction of a second. -/
def skipSecondFraction? : List Char → Option (List Char)
  | '.' :: rest =>
    if rest.head?.any Char.isDigit then some (rest.dropWhile Char.isDigit) else none
  | text => some text

/-- A time of day; the sixtieth second is the leap second. -/
def skipTime? (text : List Char) : Option (List Char) := do
  let (_, text) ← twoDigits 0 23 text
  let (_, text) ← twoDigits 0 59 (← skipChar? ':' text)
  let (_, text) ← twoDigits 0 60 (← skipChar? ':' text)
  skipSecondFraction? text

/-- An offset from universal time, where there is one. -/
def skipOffset? : List Char → Option (List Char)
  | 'Z' :: rest | 'z' :: rest => some rest
  | '+' :: rest | '-' :: rest => do
    let (_, rest) ← twoDigits 0 23 rest
    let (_, rest) ← twoDigits 0 59 (← skipChar? ':' rest)
    return rest
  | text => some text

/-- The time that may follow a date, after a blank or a `T`. A blank with no time behind it ends
the date. -/
def skipTimeAfterDate? : List Char → Option (List Char)
  | 'T' :: rest | 't' :: rest => do skipOffset? (← skipTime? rest)
  | ' ' :: rest =>
    if rest.head?.any Char.isDigit then do skipOffset? (← skipTime? rest) else some (' ' :: rest)
  | text => some text

/-- A date, a time, or both. -/
def skipDateTime? (text : List Char) : Option (List Char) :=
  match skipDate? text with
  | some rest => skipTimeAfterDate? rest
  | none => skipTime? text

end GatedMemory.Toml
