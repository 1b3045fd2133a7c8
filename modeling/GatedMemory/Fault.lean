/-!
Broken preconditions of the model. A fault stops the operation that met it: nothing after it
runs, and no state is handed on. Defects that a run can report and survive are `RunError`s.
-/

set_option autoImplicit false

namespace GatedMemory

/-- A number that no word of 64 bits holds. -/
inductive Oversize where
  | sum (number : Nat) (large : UInt64.size ≤ number)
  | product (number : Nat) (large : UInt64.size ≤ number)
  /-- A clock edge, asked for at `now`. -/
  | edge (tick now : Nat) (large : UInt64.size ≤ tick)
  /-- The bytes that addresses were to be folded into. -/
  | workingSet (bytes : Nat) (large : UInt64.size ≤ bytes)
deriving DecidableEq

/-- A precondition that did not hold. -/
inductive Fault where
  /-- A clock edge was asked of a clock that never ticks. -/
  | zeroClockPeriod
  /-- An address range would end before it starts. -/
  | invertedRange
  /-- An event was scheduled for `tick`, but the queue's time is already `now`. -/
  | scheduledInPast (tick now : Nat)
  /-- Addresses were to be folded into a working set of no bytes. -/
  | emptyWorkingSet
  /-- A number was to be drawn below zero. -/
  | emptyDraw
  | overflow (number : Oversize)
deriving DecidableEq

namespace Fault

def pastText (tick now : Nat) : String :=
  "event scheduled in the past (" ++ toString tick ++ " < " ++ toString now ++ ")"

def noBytesText : String := "attempt to calculate the remainder with a divisor of zero"

end Fault

/-- The text that reports a number as too large. Where the word that it wraps around to is of no use
either, that is reported: an edge in the past, or a working set of no bytes. -/
def Oversize.message : Oversize → String
  | sum _ _ => "attempt to add with overflow"
  | product _ _ => "attempt to multiply with overflow"
  | edge tick now _ =>
    let word := tick % UInt64.size
    if word < now then Fault.pastText word now else "attempt to add with overflow"
  | workingSet bytes _ =>
    if bytes % UInt64.size = 0 then Fault.noBytesText else "attempt to multiply with overflow"

/-- The text that reports a fault. -/
def Fault.message : Fault → String
  | zeroClockPeriod => "clock period must be non-zero"
  | invertedRange => "address range must not be inverted"
  | scheduledInPast tick now => pastText tick now
  | emptyWorkingSet => noBytesText
  | emptyDraw => "cannot sample empty range"
  | overflow number => number.message

/-- The number as a word of 64 bits, which has to hold it. -/
def toWord (number : Nat) (oversize : UInt64.size ≤ number → Oversize) : Except Fault Nat :=
  if large : UInt64.size ≤ number then .error (.overflow (oversize large)) else .ok number

/-- The sum of two words, which has to fit in one. -/
def addWords (a b : Nat) : Except Fault Nat :=
  toWord (a + b) (.sum (a + b))

end GatedMemory
