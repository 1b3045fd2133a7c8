import GatedMemory.Event.Queue
import GatedMemory.Fifo
import GatedMemory.Peer
import GatedMemory.SlotTable

/-!
The gate between a requester and a memory. Requests queue for memory, and the head may leave once
the latency that its slot stands for has passed; responses queue for the requester. Either queue is
bounded, and no packet overtakes another of its queue.
-/

set_option autoImplicit false

namespace GatedMemory

/-- A request that waits for its latency to pass, with the slot that tells. -/
structure QueuedRequest where
  packet : Packet
  slot : SlotId
deriving DecidableEq

/-- Flow control towards one peer. -/
structure FlowFlags where
  /-- The peer refused what it was offered last; nothing more is offered until it asks. -/
  blocked : Bool := false
  /-- The peer was refused and is to be told when it can try again. -/
  owesRetry : Bool := false
deriving DecidableEq

/-- The queues of both directions, the slots of the requests that wait, and how the flow towards
each peer stands. -/
structure Gate where
  requests : BoundedFifo QueuedRequest
  responses : BoundedFifo Packet
  slots : SlotTable
  /-- Towards the requester. -/
  towardRequester : FlowFlags
  /-- Towards memory. -/
  towardMemory : FlowFlags
deriving DecidableEq

namespace Gate

variable {ρ μ α : Type}

/-- A gate with nothing queued. -/
def empty (requestCapacity responseCapacity : Nat) : Gate :=
  { requests := .empty requestCapacity, responses := .empty responseCapacity, slots := .empty,
    towardRequester := {}, towardMemory := {} }

/-- Queues a request that may leave at `readyAt`, when the event made from its slot is due. A full
queue hands it back, schedules nothing and owes the requester a retry. -/
def admitRequest (gate : Gate) (packet : Packet) (readyAt : Nat) (events : EventQueue α)
    (elapsed : SlotId → α) : Except Fault (Delivery × Gate × EventQueue α) := do
  let (slot, slots) := gate.slots.acquire
  match gate.requests.push { packet, slot } with
  | .ok requests =>
    let (_, events) ← events.schedule readyAt Priority.standard (elapsed slot)
    return (.accepted, { gate with requests, slots }, events)
  | .error refused =>
    let towardRequester := { gate.towardRequester with owesRetry := true }
    return (.rejected refused.packet,
      { gate with slots := slots.release refused.slot, towardRequester }, events)

/-- The latency of a request is over; `false` if the slot is not waiting. -/
def finishWait (gate : Gate) (slot : SlotId) : Bool × Gate :=
  let (done, slots) := gate.slots.finish slot
  (done, { gate with slots })

/-- The oldest request, if it may leave. -/
def readyHead? (gate : Gate) : Option QueuedRequest :=
  gate.requests.head?.filter fun head => gate.slots.isReady head.slot

/-- Offers the oldest response to the requester, unless it is blocked. A refusal keeps the response
at the head and blocks the requester. -/
def sendResponse [ResponseSink ρ] (gate : Gate) (requester : ρ) (now : Nat) :
    Bool × Gate × ρ :=
  if gate.towardRequester.blocked || gate.responses.isEmpty then (false, gate, requester)
  else
    let offer packet requester :=
      let (delivery, requester) := ResponseSink.offer packet now requester
      (delivery.returned?, requester)
    let (sent, responses, requester) := gate.responses.offerHead offer requester
    let towardRequester := { gate.towardRequester with blocked := !sent }
    (sent, { gate with responses, towardRequester }, requester)

/-- Marks the requester as blocked. -/
def blockRequester (gate : Gate) : Gate :=
  { gate with towardRequester := { gate.towardRequester with blocked := true } }

/-- The requester takes responses again. Nothing is sent at once. -/
def unblockRequester (gate : Gate) : Gate :=
  { gate with towardRequester := { gate.towardRequester with blocked := false } }

/-- Offers the oldest request to memory, if it may leave and memory is not blocked. A refusal keeps
the request at the head, still ready, and blocks memory. -/
def sendRequest [RequestSink μ] (gate : Gate) (memory : μ) (now : Nat) : Bool × Gate × μ :=
  if gate.towardMemory.blocked then (false, gate, memory)
  else match gate.readyHead? with
    | none => (false, gate, memory)
    | some head =>
      let offer request memory :=
        let (delivery, memory) := RequestSink.offer request.packet now memory
        (delivery.returned?.map fun packet => { request with packet }, memory)
      let (sent, requests, memory) := gate.requests.offerHead offer memory
      if sent then
        (true, { gate with requests, slots := gate.slots.release head.slot }, memory)
      else
        let towardMemory := { gate.towardMemory with blocked := true }
        (false, { gate with requests, towardMemory }, memory)

/-- Queues a response. A full queue hands it back and owes memory a retry. -/
def admitResponse (gate : Gate) (packet : Packet) : Delivery × Gate :=
  match gate.responses.push packet with
  | .ok responses =>
    (.accepted,
      { gate with responses, towardMemory := { gate.towardMemory with owesRetry := false } })
  | .error packet =>
    (.rejected packet, { gate with towardMemory := { gate.towardMemory with owesRetry := true } })

/-- Memory takes requests again, and is offered the oldest one at once. -/
def unblockMemory [RequestSink μ] (gate : Gate) (memory : μ) (now : Nat) : Bool × Gate × μ :=
  { gate with towardMemory := { gate.towardMemory with blocked := false } }.sendRequest memory now

/-- Settles a retry owed to the requester; `false` if there is none. -/
def takeRequestRetry (gate : Gate) : Bool × Gate :=
  (gate.towardRequester.owesRetry,
    { gate with towardRequester := { gate.towardRequester with owesRetry := false } })

/-- Settles a retry owed to memory; `false` if there is none. -/
def takeResponseRetry (gate : Gate) : Bool × Gate :=
  (gate.towardMemory.owesRetry,
    { gate with towardMemory := { gate.towardMemory with owesRetry := false } })

end Gate

end GatedMemory
