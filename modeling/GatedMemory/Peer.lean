import GatedMemory.Packet

/-!
The two ends of a link. Every hop follows one contract: the receiver keeps the packet or hands it
back, and one that handed a packet back owes the sender a retry once it can accept again.
-/

set_option autoImplicit false

namespace GatedMemory

/-- What became of a packet that was offered to a peer. -/
inductive Delivery where
  | accepted
  /-- The peer could not take the packet, and it belongs to the sender again. -/
  | rejected (packet : Packet)
deriving DecidableEq

namespace Delivery

def isAccepted : Delivery → Bool
  | accepted => true
  | rejected _ => false

/-- The packet that came back. -/
def returned? : Delivery → Option Packet
  | accepted => none
  | rejected packet => some packet

end Delivery

/-- A requester as seen from below: it takes responses. -/
class ResponseSink (ρ : Type) where
  /-- A response arrives. -/
  offer : Packet → Nat → ρ → Delivery × ρ
  /-- A request that was rejected before can be sent again. -/
  requestRetry : ρ → ρ
  /-- The addresses that can be reached have changed. -/
  rangeChange : ρ → ρ

/-- A memory as seen from above: it takes requests. -/
class RequestSink (μ : Type) where
  /-- A request arrives. -/
  offer : Packet → Nat → μ → Delivery × μ
  /-- A response that was rejected before can be sent again. -/
  responseRetry : μ → μ
  /-- The addresses served. -/
  ranges : μ → List AddressRange
  /-- An access that takes no time; the packet becomes its answer where it has one. -/
  functional : Packet → μ → Packet × μ
  /-- An access at once, with the latency it would have had. -/
  atomic : Packet → μ → (Nat × Packet) × μ

end GatedMemory
