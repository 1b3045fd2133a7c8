import GatedMemory.Decimal.Round
import GatedMemory.Error
import GatedMemory.Traffic.RandomStream

/-!
The description of a workload: how many requests, to which addresses, and how many of them reads.
-/

set_option autoImplicit false

namespace GatedMemory

/-- Which addresses successive requests go to. -/
inductive AccessPattern where
  /-- One line after the other. -/
  | sequential
  /-- A fixed number of bytes apart. -/
  | strided (stride : Nat)
  /-- Lines drawn uniformly; the seed makes the draw repeatable. -/
  | random (stream : RandomStream)

/-- A workload. -/
structure Workload where
  numRequests : Nat := 1000
  /-- The part of the requests that are reads; the others are writes. -/
  readFraction : Float := 0.7
  pattern : AccessPattern := .sequential
  /-- Bytes of a line. -/
  lineSize : Nat := 64
  /-- Number of distinct lines; zero for no limit. -/
  workingSetLines : Nat := 0
  /-- Requests that may wait for their response at once. -/
  maxOutstanding : Nat := 8

namespace Workload

/-- Out of the fraction's range, lines of no bytes and windows of no requests are refused. -/
def validate (workload : Workload) : Except ConfigDefect Unit :=
  if !(0 ≤ workload.readFraction && workload.readFraction ≤ 1) then
    .error (.readFraction workload.readFraction)
  else if workload.lineSize = 0 then .error .lineSize
  else if workload.maxOutstanding = 0 then .error .workloadOutstanding
  else .ok ()

/-- A double rounded to the nearest natural number, a half upwards. What lies below zero becomes
zero, what is no number too, and what lies above `limit` becomes `limit`. -/
def clampedRound (limit : Nat) (x : Float) : Nat :=
  match Decimal.Binary64.ofFloat x with
  | .nan => 0
  | .infinite negative => if negative then 0 else limit
  | .finite negative mantissa exponent =>
    if negative then 0
    else
      let (num, den) := Decimal.Binary64.scale exponent
      min limit (Decimal.roundDiv (mantissa * num) den .up)

/-- The reads among each hundred successive requests. -/
def readsPerHundred (workload : Workload) : Nat :=
  clampedRound 100 (workload.readFraction * 100)

/-- The seed that the random draw starts from. -/
def seed (workload : Workload) : Nat :=
  match workload.pattern with
  | .random stream => stream.seed
  | _ => 0

end Workload

end GatedMemory
