import GatedMemory.Summary
import GatedMemory.Peer
import GatedMemory.Traffic.Workload

/-!
The requester: it issues the requests of a workload in order, at most one at a time, and measures
how long each takes. A request that was handed back is held, and is the next to go out once the
receiver has sent a retry.
-/

set_option autoImplicit false

namespace GatedMemory

/-- A requester part of the way through its workload. -/
structure RequestGenerator where
  workload : Workload
  /-- Position in the stream of random numbers. -/
  position : Nat
  /-- Requests created so far; the next one gets this number. -/
  created : Nat
  /-- A request that was handed back. -/
  held : Option Packet
  /-- The receiver owes a retry. -/
  awaitsRetry : Bool
  stats : TrafficStats

namespace RequestGenerator

/-- A requester that has not issued anything. -/
def fresh (workload : Workload) : RequestGenerator :=
  { workload, position := 0, created := 0, held := none, awaitsRetry := false, stats := {} }

/-- Issued requests whose response has not come. -/
def inFlight (source : RequestGenerator) : Nat :=
  source.stats.issued - source.stats.responses

/-- Every response has come. -/
def isFinished (source : RequestGenerator) : Bool :=
  source.workload.numRequests ≤ source.stats.responses

/-- Lines that random addresses are drawn from when the working set has no limit. -/
def unlimitedLines : Nat := 1 <<< 20

/-- The address of the request with this number, and the position in the stream after it. Products
with the number wrap around; the bytes of a working set and the address of a drawn line must not. -/
def addressOf (workload : Workload) (number position : Nat) : Except Fault (Nat × Nat) :=
  let line := workload.lineSize
  let lines := workload.workingSetLines
  match workload.pattern with
  | .sequential =>
    let index := if lines = 0 then number else number % lines
    .ok (index * line % UInt64.size, position)
  | .strided stride => do
    let address := number * stride % UInt64.size
    if lines = 0 then return (address, position)
    let bytes ← toWord (lines * line) (.workingSet (lines * line))
    if bytes = 0 then throw .emptyWorkingSet
    return (address % bytes, position)
  | .random stream => do
    let bound := if lines = 0 then unlimitedLines else lines
    let (index, position) ← stream.draw bound position
    let address ← toWord (index * line) (.product (index * line))
    return (address, position)

/-- The request with this number: the first ones of each hundred are reads. -/
def requestOf (workload : Workload) (number : Nat) (address : Nat) (now : Nat) : Packet :=
  if number % 100 < workload.readsPerHundred then .read number address now
  else .write number address now

/-- Another request may be created: some are left, and the window is not full. -/
def canCreate (source : RequestGenerator) : Bool :=
  source.created < source.workload.numRequests &&
    source.inFlight < source.workload.maxOutstanding

/-- Creates the next request of the workload. -/
def create (now : Nat) (source : RequestGenerator) : Except Fault (Packet × RequestGenerator) := do
  let (address, position) ← addressOf source.workload source.created source.position
  return (requestOf source.workload source.created address now,
    { source with created := source.created + 1, position })

/-- The request to offer now, if any: none while a retry is owed, else the held one, else a new
one. -/
def next (now : Nat) (source : RequestGenerator) :
    Except Fault (Option Packet × RequestGenerator) :=
  if source.awaitsRetry then .ok (none, source)
  else match source.held with
    | some packet => .ok (some packet, { source with held := none })
    | none =>
      if source.canCreate then do
        let (packet, source) ← source.create now
        return (some packet, source)
      else .ok (none, source)

/-- The request that was offered last was taken. -/
def accepted (source : RequestGenerator) : RequestGenerator :=
  { source with stats := { source.stats with issued := source.stats.issued + 1 } }

/-- The request that was offered last came back. -/
def rejected (packet : Packet) (source : RequestGenerator) : RequestGenerator :=
  { source with
    stats := { source.stats with rejected := source.stats.rejected + 1 }
    held := some packet
    awaitsRetry := true }

/-- Takes any response, and counts the time since its request was created. -/
def offer (packet : Packet) (now : Nat) (source : RequestGenerator) :
    Delivery × RequestGenerator :=
  (.accepted, { source with stats := source.stats.addResponse (now - packet.createdAt) })

/-- A sum of round trips that is too large for a word. -/
def oversize? (source : RequestGenerator) : Option Oversize :=
  let total := source.stats.totalRoundTrip
  if large : UInt64.size ≤ total then some (.sum total large) else none

def requestRetry (source : RequestGenerator) : RequestGenerator :=
  { source with
    stats := { source.stats with retriesReceived := source.stats.retriesReceived + 1 }
    awaitsRetry := false }

def rangeChange (source : RequestGenerator) : RequestGenerator :=
  { source with stats := { source.stats with rangeChanges := source.stats.rangeChanges + 1 } }

end RequestGenerator

instance : ResponseSink RequestGenerator where
  offer := RequestGenerator.offer
  requestRetry := RequestGenerator.requestRetry
  rangeChange := RequestGenerator.rangeChange

end GatedMemory
