import GatedMemory.Gate
import GatedMemory.Proofs.EventQueue
import GatedMemory.Proofs.Outcome
import GatedMemory.Proofs.SlotTable

set_option autoImplicit false

namespace GatedMemory

namespace Gate

variable {ρ μ α : Type} {gate : Gate} {now : Nat}

def dropHead (gate : Gate) (head : QueuedRequest) (rest : List QueuedRequest) : Gate :=
  { gate with
    requests := { gate.requests with items := rest }
    slots := gate.slots.release head.slot }

/-- The gate once memory has handed a packet back for the oldest request. -/
def keepHead (gate : Gate) (head : QueuedRequest) (rest : List QueuedRequest) : Gate :=
  { gate with
    requests := { gate.requests with items := head :: rest }
    towardMemory := { gate.towardMemory with blocked := true } }

/-- What offering the oldest request to memory can do. -/
inductive SendsRequest [RequestSink μ] (gate : Gate) (memory : μ) (now : Nat) :
    Bool × Gate × μ → Prop where
  | idle (unable : gate.towardMemory.blocked = true ∨ gate.readyHead? = none) :
    SendsRequest gate memory now (false, gate, memory)
  | taken {head : QueuedRequest} {rest : List QueuedRequest} {memory' : μ}
    (unblocked : gate.towardMemory.blocked = false)
    (items : gate.requests.items = head :: rest) (ready : gate.slots.isReady head.slot = true)
    (offer : RequestSink.offer head.packet now memory = (.accepted, memory')) :
    SendsRequest gate memory now (true, gate.dropHead head rest, memory')
  | refused {head : QueuedRequest} {rest : List QueuedRequest} {back : Packet} {memory' : μ}
    (unblocked : gate.towardMemory.blocked = false)
    (items : gate.requests.items = head :: rest) (ready : gate.slots.isReady head.slot = true)
    (offer : RequestSink.offer head.packet now memory = (.rejected back, memory')) :
    SendsRequest gate memory now (false, gate.keepHead { head with packet := back } rest, memory')

theorem readyHead?_eq_some_iff {head : QueuedRequest} : gate.readyHead? = some head ↔
    gate.requests.items.head? = some head ∧ gate.slots.isReady head.slot = true := by
  simp only [readyHead?, BoundedFifo.head?, Option.filter_eq_some_iff]

theorem sendRequest_cases [RequestSink μ] (gate : Gate) (memory : μ) (now : Nat) :
    SendsRequest gate memory now (gate.sendRequest memory now) := by
  cases blocked : gate.towardMemory.blocked with
  | true =>
    simp only [sendRequest, blocked, ↓reduceIte]
    exact .idle (.inl blocked)
  | false =>
    cases first : gate.readyHead? with
    | none =>
      simp only [sendRequest, blocked, first, Bool.false_eq_true, ↓reduceIte]
      exact .idle (.inr first)
    | some head =>
      obtain ⟨oldest, ready⟩ := readyHead?_eq_some_iff.1 first
      obtain ⟨rest, items⟩ := List.head?_eq_some_iff.1 oldest
      cases offer : RequestSink.offer head.packet now memory with
      | mk delivery memory' =>
        cases delivery with
        | accepted =>
          simp only [sendRequest, blocked, first, BoundedFifo.offerHead, items, offer,
            Delivery.returned?, Option.map_none, Bool.false_eq_true, ↓reduceIte]
          exact .taken blocked items ready offer
        | rejected back =>
          simp only [sendRequest, blocked, first, BoundedFifo.offerHead, items, offer,
            Delivery.returned?, Option.map_some, Bool.false_eq_true, ↓reduceIte]
          exact .refused blocked items ready offer

def reopened (gate : Gate) : Gate :=
  { gate with towardMemory := { gate.towardMemory with blocked := false } }

/-- What offering the oldest response to the requester can do. -/
inductive SendsResponse [ResponseSink ρ] (gate : Gate) (requester : ρ) (now : Nat) :
    Bool × Gate × ρ → Prop where
  | idle (unable : gate.towardRequester.blocked = true ∨ gate.responses.items = []) :
    SendsResponse gate requester now (false, gate, requester)
  | taken {head : Packet} {rest : List Packet} {requester' : ρ}
    (unblocked : gate.towardRequester.blocked = false)
    (items : gate.responses.items = head :: rest)
    (offer : ResponseSink.offer head now requester = (.accepted, requester')) :
    SendsResponse gate requester now
      (true, { gate with responses := { gate.responses with items := rest } }, requester')
  | refused {head back : Packet} {rest : List Packet} {requester' : ρ}
    (unblocked : gate.towardRequester.blocked = false)
    (items : gate.responses.items = head :: rest)
    (offer : ResponseSink.offer head now requester = (.rejected back, requester')) :
    SendsResponse gate requester now
      (false, { gate with
        responses := { gate.responses with items := back :: rest }
        towardRequester := { gate.towardRequester with blocked := true } }, requester')

theorem sendResponse_cases [ResponseSink ρ] (gate : Gate) (requester : ρ) (now : Nat) :
    SendsResponse gate requester now (gate.sendResponse requester now) := by
  cases blocked : gate.towardRequester.blocked with
  | true =>
    simp only [sendResponse, blocked, Bool.true_or, ↓reduceIte]
    exact .idle (.inl blocked)
  | false =>
    cases items : gate.responses.items with
    | nil =>
      simp only [sendResponse, blocked, BoundedFifo.isEmpty, items, List.isEmpty_nil,
        Bool.or_true, ↓reduceIte]
      exact .idle (.inr items)
    | cons head rest =>
      cases offer : ResponseSink.offer head now requester with
      | mk delivery requester' =>
        cases delivery with
        | accepted =>
          have same : gate.towardRequester = ⟨false, gate.towardRequester.owesRetry⟩ := by
            rw [← blocked]
          simp only [sendResponse, blocked, BoundedFifo.isEmpty, BoundedFifo.offerHead, items,
            offer, Delivery.returned?, List.isEmpty_cons, Bool.or_self, Bool.false_eq_true,
            ↓reduceIte, Bool.not_true, ← same]
          exact .taken blocked items offer
        | rejected back =>
          simp only [sendResponse, blocked, BoundedFifo.isEmpty, BoundedFifo.offerHead, items,
            offer, Delivery.returned?, List.isEmpty_cons, Bool.or_self, Bool.false_eq_true,
            ↓reduceIte, Bool.not_false]
          exact .refused blocked items offer

/-- The gate once a request has joined the queue. -/
def withRequest (gate : Gate) (packet : Packet) : Gate :=
  { gate with
    requests := { gate.requests with
      items := gate.requests.items ++ [⟨packet, gate.slots.acquire.1⟩] }
    slots := gate.slots.acquire.2 }

def withoutRequest (gate : Gate) : Gate :=
  { gate with
    slots := gate.slots.acquire.2.release gate.slots.acquire.1
    towardRequester := { gate.towardRequester with owesRetry := true } }

variable {packet : Packet} {readyAt : Nat} {events : EventQueue α} {elapsed : SlotId → α}

theorem admitRequest_of_lt (room : gate.requests.items.length < gate.requests.capacity)
    (future : events.now ≤ readyAt) :
    gate.admitRequest packet readyAt events elapsed = .ok (.accepted, gate.withRequest packet,
      events.scheduled readyAt Priority.standard (elapsed gate.slots.acquire.1)) := by
  simp only [admitRequest, BoundedFifo.push_of_lt room, EventQueue.schedule_eq future]
  rfl

theorem admitRequest_of_le (full : gate.requests.capacity ≤ gate.requests.items.length) :
    gate.admitRequest packet readyAt events elapsed =
      .ok (.rejected packet, gate.withoutRequest, events) := by
  simp only [admitRequest, BoundedFifo.push_of_le full]
  rfl

def withResponse (gate : Gate) (packet : Packet) : Gate :=
  { gate with
    responses := { gate.responses with items := gate.responses.items ++ [packet] }
    towardMemory := { gate.towardMemory with owesRetry := false } }

def withoutResponse (gate : Gate) : Gate :=
  { gate with towardMemory := { gate.towardMemory with owesRetry := true } }

theorem admitResponse_of_lt (room : gate.responses.items.length < gate.responses.capacity) :
    gate.admitResponse packet = (.accepted, gate.withResponse packet) := by
  simp only [admitResponse, BoundedFifo.push_of_lt room]
  rfl

theorem admitResponse_of_le (full : gate.responses.capacity ≤ gate.responses.items.length) :
    gate.admitResponse packet = (.rejected packet, gate.withoutResponse) := by
  simp only [admitResponse, BoundedFifo.push_of_le full]
  rfl

end Gate

end GatedMemory
