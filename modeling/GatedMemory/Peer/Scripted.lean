import GatedMemory.Peer

/-!
Peers whose answers are set from outside, for watching a component by itself. They accept packets
while they are told to, and record what they took and what they were told.
-/

set_option autoImplicit false

namespace GatedMemory

/-- A requester that records the responses it takes. -/
structure ScriptedRequester where
  accepting : Bool := true
  /-- Responses that were offered, taken or not. -/
  offers : Nat := 0
  /-- Responses taken and when, oldest first. -/
  received : List (Nat × Packet) := []
  requestRetries : Nat := 0
  rangeChanges : Nat := 0

instance : ResponseSink ScriptedRequester where
  offer packet now requester :=
    let requester := { requester with offers := requester.offers + 1 }
    if requester.accepting then
      (.accepted, { requester with received := requester.received ++ [(now, packet)] })
    else (.rejected packet, requester)
  requestRetry requester := { requester with requestRetries := requester.requestRetries + 1 }
  rangeChange requester := { requester with rangeChanges := requester.rangeChanges + 1 }

/-- A memory that records the requests it takes, and answers none of them by itself. -/
structure ScriptedMemory where
  accepting : Bool := true
  /-- Requests that were offered, taken or not. -/
  offers : Nat := 0
  /-- Requests taken and when, oldest first. -/
  received : List (Nat × Packet) := []
  responseRetries : Nat := 0
  functionalAccesses : Nat := 0
  atomicLatency : Nat := 30
  ranges : List AddressRange := [.firstBytes UInt32.size]

instance : RequestSink ScriptedMemory where
  offer packet now memory :=
    let memory := { memory with offers := memory.offers + 1 }
    if memory.accepting then
      (.accepted, { memory with received := memory.received ++ [(now, packet)] })
    else (.rejected packet, memory)
  responseRetry memory := { memory with responseRetries := memory.responseRetries + 1 }
  ranges := ScriptedMemory.ranges
  functional packet memory :=
    (packet, { memory with functionalAccesses := memory.functionalAccesses + 1 })
  atomic packet memory := ((memory.atomicLatency, packet.settled), memory)

end GatedMemory
