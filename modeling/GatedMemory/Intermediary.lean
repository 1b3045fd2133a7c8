import GatedMemory.Error
import GatedMemory.Event.Queue
import GatedMemory.Peer

/-!
Components that stand between a requester and a memory. A rig is such a component with its two
peers and the event queue; every operation of the component is a function from rig to rig.
-/

set_option autoImplicit false

namespace GatedMemory

/-- Events of one kind among those of a queue. -/
class Embed (ε α : Type) where
  embed : ε → α

instance (ε : Type) : Embed ε ε where
  embed := id

/-- A component, its peers, and the events to come. -/
structure Rig (κ ρ μ α : Type) where
  component : κ
  requester : ρ
  memory : μ
  events : EventQueue α

/-- A component between a requester and a memory. `ε` holds the events it schedules for itself. -/
class Intermediary (κ : Type) (ε : outParam Type) where
  /-- The name under which its runs are reported. -/
  name : String
  /-- Schedules the work that the component does of itself. -/
  start {ρ μ α : Type} [Embed ε α] : Rig κ ρ μ α → Except Fault (Rig κ ρ μ α)
  /-- Cancels the work that would go on for ever. -/
  windDown {ρ μ α : Type} : Rig κ ρ μ α → Rig κ ρ μ α
  /-- One of the component's events is due. -/
  handle {ρ μ α : Type} [ResponseSink ρ] [RequestSink μ] [Embed ε α] :
    ε → Rig κ ρ μ α → Except Fault (Option RunError × Rig κ ρ μ α)
  /-- The requester sends a request. Being busy is no error. -/
  request {ρ μ α : Type} [RequestSink μ] [Embed ε α] :
    Packet → Rig κ ρ μ α → Except Fault (Except RunError Delivery × Rig κ ρ μ α)
  /-- Memory sends a response. -/
  response {ρ μ α : Type} [ResponseSink ρ] [Embed ε α] :
    Packet → Rig κ ρ μ α → Except Fault (Delivery × Rig κ ρ μ α)
  /-- The requester can take responses again. -/
  responseRetry {ρ μ α : Type} [ResponseSink ρ] [RequestSink μ] : Rig κ ρ μ α → Rig κ ρ μ α
  /-- Memory can take requests again. -/
  requestRetry {ρ μ α : Type} [ResponseSink ρ] [RequestSink μ] : Rig κ ρ μ α → Rig κ ρ μ α

namespace Rig

variable {κ ε ρ μ α : Type}

/-- A component between two peers, with nothing scheduled. -/
def assemble (component : κ) (requester : ρ) (memory : μ) : Rig κ ρ μ α :=
  { component, requester, memory, events := .empty }

def now (rig : Rig κ ρ μ α) : Nat :=
  rig.events.now

/-- The addresses that can be reached are those that memory serves. -/
def ranges [RequestSink μ] (rig : Rig κ ρ μ α) : List AddressRange :=
  RequestSink.ranges rig.memory

/-- Tells the requester that the reachable addresses have changed. -/
def rangeChange [ResponseSink ρ] (rig : Rig κ ρ μ α) : Rig κ ρ μ α :=
  { rig with requester := ResponseSink.rangeChange rig.requester }

/-- An access that takes no time goes straight to memory. -/
def functional [RequestSink μ] (packet : Packet) (rig : Rig κ ρ μ α) : Packet × Rig κ ρ μ α :=
  let (packet, memory) := RequestSink.functional packet rig.memory
  (packet, { rig with memory })

/-- An access at once goes straight to memory. -/
def atomic [RequestSink μ] (packet : Packet) (rig : Rig κ ρ μ α) :
    (Nat × Packet) × Rig κ ρ μ α :=
  let (answer, memory) := RequestSink.atomic packet rig.memory
  (answer, { rig with memory })

/-- What a run of a rig did: the events that fired, oldest first, and the error that ended it. -/
structure Trace (ε : Type) where
  events : List (Nat × ε)
  failure : Option RunError

/-- `advance` for a bounded number of events. -/
def advanceWithin [Intermediary κ ε] [ResponseSink ρ] [RequestSink μ] (limit : Nat) :
    Nat → Rig κ ρ μ ε → Except Fault (Trace ε × Rig κ ρ μ ε)
  | 0, rig => .ok (⟨[], none⟩, { rig with events := rig.events.moveTo limit })
  | fuel + 1, rig =>
    match rig.events.takeDue limit with
    | none => .ok (⟨[], none⟩, { rig with events := rig.events.moveTo limit })
    | some (tick, event, events) => do
      let (failure, rig) ← Intermediary.handle event { rig with events }
      match failure with
      | some error => return (⟨[(tick, event)], some error⟩, rig)
      | none =>
        let (trace, rig) ← advanceWithin limit fuel rig
        return ({ trace with events := (tick, event) :: trace.events }, rig)

/-- Lets the component do what is due at `limit` or before, then moves time there. An error ends
the run where it is. -/
def advance [Intermediary κ ε] [ResponseSink ρ] [RequestSink μ] (limit : Nat)
    (rig : Rig κ ρ μ ε) : Except Fault (Trace ε × Rig κ ρ μ ε) :=
  advanceWithin limit (rig.events.horizon limit) rig

/-- Lets the component do the next thing that is due. -/
def step [Intermediary κ ε] [ResponseSink ρ] [RequestSink μ] (rig : Rig κ ρ μ ε) :
    Except Fault (Option (Nat × ε × Option RunError) × Rig κ ρ μ ε) :=
  match rig.events.takeNext with
  | none => .ok (none, rig)
  | some (tick, event, events) => do
    let (failure, rig) ← Intermediary.handle event { rig with events }
    return (some (tick, event, failure), rig)

end Rig

end GatedMemory
