import GatedMemory.Peer.Scripted
import GatedMemory.Proofs.Completions

set_option autoImplicit false

namespace GatedMemory

/-- An operation on the request side. -/
inductive RequestOp where
  /-- The requester sends a request, which is to wait for `delay` ticks. -/
  | enter (packet : Packet) (delay : Nat)
  /-- The oldest request is offered to memory. -/
  | send (now : Nat)
  /-- Memory asks for the request it refused. -/
  | unblock (now : Nat)
  /-- The next completion fires. -/
  | fire
deriving DecidableEq

/-- A gate and a memory, with the completions to come. -/
structure RequestSide (μ : Type) where
  gate : Gate
  memory : μ
  events : EventQueue SlotId
  /-- A ticket for each request admitted so far, oldest first. -/
  admitted : List Ticket

namespace RequestSide

variable {μ : Type} {side : RequestSide μ}

def start (requestCapacity responseCapacity : Nat) (memory : μ) : RequestSide μ :=
  { gate := .empty requestCapacity responseCapacity, memory, events := .empty, admitted := [] }

def perform [RequestSink μ] (side : RequestSide μ) : RequestOp → Except Fault (RequestSide μ)
  | .enter packet delay => do
    let readyAt := side.events.now + delay
    let (delivery, gate, events) ← side.gate.admitRequest packet readyAt side.events id
    let ticket := ⟨side.gate.slots.acquire.1, readyAt⟩
    let admitted := if delivery.isAccepted then side.admitted ++ [ticket] else side.admitted
    return { side with gate, events, admitted }
  | .send now =>
    let (_, gate, memory) := side.gate.sendRequest side.memory now
    .ok { side with gate, memory }
  | .unblock now =>
    let (_, gate, memory) := side.gate.unblockMemory side.memory now
    .ok { side with gate, memory }
  | .fire =>
    match side.events.takeNext with
    | none => .ok side
    | some (_, slot, events) => .ok { side with gate := (side.gate.finishWait slot).2, events }

/-- The tickets of the queued requests, which are those admitted last. -/
def tickets (side : RequestSide μ) : List Ticket :=
  side.admitted.drop (side.admitted.length - side.gate.requests.items.length)

def slots (side : RequestSide μ) : List SlotId :=
  side.gate.requests.items.map QueuedRequest.slot

def nextSlot? (side : RequestSide μ) : Option SlotId :=
  side.events.takeNext.map fun fired => fired.2.1

/-- Queue entries, reserved markers and completions to come are in bijection. -/
structure Consistent (side : RequestSide μ) : Prop where
  /-- As many markers are reserved as requests are queued. -/
  inUse : side.gate.slots.inUse = side.gate.requests.items.length
  /-- No two queued requests share a marker. -/
  distinct : side.slots.Nodup
  /-- The reserved markers are exactly those of the queued requests. -/
  reserved_iff : ∀ id, (side.gate.slots.find? id).isSome = true ↔ id ∈ side.slots
  /-- The tickets stand for the queued requests, in order. -/
  tickets : side.tickets.map Ticket.slot = side.slots
  /-- The completions to come are those of the requests that are not ready, each once. -/
  completions : side.events.agenda.Perm
    ((side.gate.unready side.tickets).map (Ticket.completion id))
  /-- No request is ready before its time. -/
  matured : side.gate.Matured side.tickets side.events.now

/-- The invariant behind `Consistent`, with the tickets spelled out. -/
structure Invariant (capacity : Nat) (side : RequestSide μ) (tickets : List Ticket) : Prop where
  timed : side.gate.Timed id side.events tickets []
  history : ∃ sent, side.admitted = sent ++ tickets
  sized : side.gate.requests.capacity = capacity

variable {capacity : Nat} {tickets : List Ticket}

theorem start_invariant (requestCapacity responseCapacity : Nat) (memory : μ) :
    Invariant requestCapacity (start requestCapacity responseCapacity memory) [] where
  timed := Gate.timed_empty id requestCapacity responseCapacity
  history := ⟨[], rfl⟩
  sized := rfl

namespace Invariant

variable (inv : Invariant capacity side tickets)
include inv

theorem tickets_eq : side.tickets = tickets := by
  obtain ⟨sent, history⟩ := inv.history
  have length := inv.timed.tracks.length_eq
  rw [RequestSide.tickets, history, List.length_append, length, Nat.add_sub_cancel]
  exact List.drop_left

theorem consistent : side.Consistent where
  inUse := inv.timed.tracks.count.trans inv.timed.tracks.length_eq.symm
  distinct := by
    rw [slots, inv.timed.tracks.slots]
    exact inv.timed.tracks.distinct
  reserved_iff id := by rw [inv.timed.tracks.live_iff, slots, inv.timed.tracks.slots]
  tickets := by rw [inv.tickets_eq, slots, inv.timed.tracks.slots]
  completions := by
    rw [inv.tickets_eq]
    exact inv.timed.awaits.agenda
  matured := by
    rw [inv.tickets_eq]
    exact inv.timed.matured

theorem fits (fits : capacity + 1 < 2 ^ 32) : side.gate.requests.capacity + 1 < 2 ^ 32 := by
  rw [inv.sized]
  exact fits

/-- The completion that fires next belongs to a queued request that is not ready. -/
theorem fires {entry : EventEntry SlotId} {rest : List (EventEntry SlotId)}
    (pending : side.events.pending = entry :: rest) : ∃ ticket ∈ side.gate.unready tickets,
    ticket.completion id = (entry.tick, entry.payload) := by
  rcases inv.timed.fires pending with other | completion
  · cases other
  · exact completion

end Invariant

/-- Where the operation leads, each marker that is in use afterwards is ready exactly if it was
ready before or its own completion has just fired. -/
def FlipsOnly (side : RequestSide μ) (op : RequestOp) (next : RequestSide μ) : Prop :=
  ∀ id ∈ next.slots, (next.gate.slots.isReady id = true ↔
    side.gate.slots.isReady id = true ∨ op = .fire ∧ side.nextSlot? = some id)

/-- The state after an operation: the invariant holds again, and only the right marker changed. -/
def Advances (capacity : Nat) (side : RequestSide μ) (op : RequestOp) (next : RequestSide μ) :
    Prop :=
  (∃ tickets, Invariant capacity next tickets) ∧ FlipsOnly side op next

theorem flipsOnly_of_isReady {op : RequestOp} {next : RequestSide μ} (quiet : op ≠ .fire)
    (same : ∀ id ∈ next.slots, next.gate.slots.isReady id = side.gate.slots.isReady id) :
    FlipsOnly side op next := by
  intro id member
  simp only [same id member, quiet, false_and, or_false]

variable [RequestSink μ]

section

variable (inv : Invariant capacity side tickets)
include inv

theorem enter_advances (fits : capacity + 1 < 2 ^ 32) (packet : Packet) (delay : Nat) :
    Yields (side.perform (.enter packet delay))
      (Advances capacity side (.enter packet delay)) := by
  have room := inv.timed.inUse_lt (inv.fits fits)
  have tracks := inv.timed.tracks
  have future : side.events.now ≤ side.events.now + delay := Nat.le_add_right _ _
  by_cases space : side.gate.requests.items.length < side.gate.requests.capacity
  · simp only [perform, Gate.admitRequest_of_lt space future]
    refine .ok ⟨⟨tickets ++ [⟨side.gate.slots.acquire.1, side.events.now + delay⟩], ?_⟩, ?_⟩
    · obtain ⟨sent, history⟩ := inv.history
      refine ⟨inv.timed.enter (inv.fits fits) space future packet, ⟨sent, ?_⟩, inv.sized⟩
      simp only [Delivery.isAccepted, ↓reduceIte, history, List.append_assoc]
    · refine flipsOnly_of_isReady (by simp) fun id member => ?_
      simp only [slots, Gate.withRequest, List.map_append, List.map_cons, List.map_nil,
        List.mem_append, List.mem_singleton] at member
      simp only [Gate.withRequest]
      rcases member with old | rfl
      · rw [tracks.slots] at old
        obtain ⟨ticket, present, rfl⟩ := List.mem_map.1 old
        exact tracks.isReady_acquire room present
      · rw [tracks.isReady_acquire_self room]
        simp [SlotTable.isReady, SlotTable.find?_acquire_before tracks.sound room]
  · simp only [perform, Gate.admitRequest_of_le (Nat.not_lt.1 space)]
    exact .ok ⟨⟨tickets, inv.timed.turnAway (inv.fits fits), inv.history, inv.sized⟩,
      flipsOnly_of_isReady (by simp) fun id _ => tracks.isReady_withoutRequest room id⟩

theorem fire_advances : Yields (side.perform .fire) (Advances capacity side .fire) := by
  unfold perform
  cases next : side.events.takeNext with
  | none =>
    refine .ok ⟨⟨tickets, inv⟩, fun id _ => ?_⟩
    simp [nextSlot?, next]
  | some fired =>
    obtain ⟨entry, rest, pending, rfl⟩ := EventQueue.takeNext_eq_some_iff.1 next
    obtain ⟨ticket, waits, completes⟩ := inv.fires pending
    have same : ticket.slot = entry.payload := congrArg Prod.snd completes
    simp only [← same]
    refine .ok ⟨⟨tickets, ?_⟩, fun id _ => ?_⟩
    · exact ⟨inv.timed.finish pending waits completes, inv.history, inv.sized⟩
    · simp only [nextSlot?, next, Option.map_some, Option.some.injEq, true_and, ← same]
      by_cases equal : id = ticket.slot
      · simp only [equal, inv.timed.tracks.isReady_finish_self waits, or_true]
      · rw [Gate.Tracks.isReady_finish_of_ne equal]
        simp only [Ne.symm equal, or_false]

/-- Offering the oldest request, with the flag towards memory as it is or cleared before. -/
theorem sendRequest_advances {op : RequestOp} (quiet : op ≠ .fire) (gate : Gate) (now : Nat)
    (slots : gate.slots = side.gate.slots) (requests : gate.requests = side.gate.requests) :
    Advances capacity side op
      { side with
        gate := (gate.sendRequest side.memory now).2.1
        memory := (gate.sendRequest side.memory now).2.2 } := by
  have timed : gate.Timed id side.events tickets [] :=
    inv.timed.congr slots (by rw [requests]) (by rw [requests])
  have sized : gate.requests.capacity = capacity := by rw [requests, inv.sized]
  generalize result : gate.sendRequest side.memory now = outcome
  have outcomes := gate.sendRequest_cases side.memory now
  rw [result] at outcomes
  cases outcomes with
  | idle =>
    exact ⟨⟨tickets, timed, inv.history, sized⟩,
      flipsOnly_of_isReady quiet fun id _ => by rw [slots]⟩
  | @taken head rest memory' _ items ready _ =>
    refine ⟨⟨tickets.tail, timed.depart items ready, ?_, sized⟩, flipsOnly_of_isReady quiet ?_⟩
    · obtain ⟨sent, history⟩ := inv.history
      obtain ⟨first, later, rfl, -⟩ := timed.tracks.head_ticket items
      refine ⟨sent ++ [first], ?_⟩
      simpa only [List.append_assoc, List.singleton_append, List.tail_cons] using history
    · intro id member
      have departed := timed.tracks.depart items
      simp only [RequestSide.slots, departed.slots] at member
      obtain ⟨ticket, present, rfl⟩ := List.mem_map.1 member
      rw [timed.tracks.isReady_depart items present, slots]
  | @refused head rest back memory' _ items _ _ =>
    exact ⟨⟨tickets, timed.stay items back, inv.history, sized⟩,
      flipsOnly_of_isReady quiet fun id _ => by simp only [Gate.keepHead, slots]⟩

theorem perform_advances (fits : capacity + 1 < 2 ^ 32) (op : RequestOp) :
    Yields (side.perform op) (Advances capacity side op) := by
  cases op with
  | enter packet delay => exact enter_advances inv fits packet delay
  | send now =>
    have quiet : RequestOp.send now ≠ .fire := by simp
    exact .ok (sendRequest_advances inv quiet side.gate now rfl rfl)
  | unblock now =>
    have quiet : RequestOp.unblock now ≠ .fire := by simp
    exact .ok (sendRequest_advances inv quiet side.gate.reopened now rfl rfl)
  | fire => exact fire_advances inv

end

/-- In every state that any sequence of operations leads to, markers, queued requests and
completions to come are in bijection; the next completion takes effect; and whatever the next
operation, a marker becomes ready by its own completion alone, and stays so while it is in use. -/
theorem markers_follow_queue (requestCapacity responseCapacity : Nat)
    (fits : requestCapacity + 1 < 2 ^ 32) (memory : μ) (ops : List RequestOp) :
    Yields (ops.foldlM perform (start requestCapacity responseCapacity memory)) fun side =>
      side.Consistent ∧
      (∀ slot, side.nextSlot? = some slot → (side.gate.finishWait slot).1 = true) ∧
      ∀ op, Yields (side.perform op) (FlipsOnly side op) := by
  have keeps : ∀ side op, (∃ tickets, Invariant requestCapacity (μ := μ) side tickets) →
      Yields (side.perform op) fun next =>
        ∃ tickets, Invariant requestCapacity next tickets := by
    rintro side op ⟨tickets, inv⟩
    exact (perform_advances inv fits op).mono fun _ advances => advances.1
  have initial := start_invariant requestCapacity responseCapacity memory
  apply (Yields.foldlM keeps ops ⟨[], initial⟩).mono
  rintro side ⟨tickets, inv⟩
  refine ⟨inv.consistent, ?_, fun op => ?_⟩
  · intro slot next
    obtain ⟨fired, taken, rfl⟩ := Option.map_eq_some_iff.1 next
    obtain ⟨entry, rest, pending, rfl⟩ := EventQueue.takeNext_eq_some_iff.1 taken
    obtain ⟨ticket, waits, completes⟩ := inv.fires pending
    have same : ticket.slot = entry.payload := congrArg Prod.snd completes
    simp only [← same]
    exact inv.timed.tracks.finishWait_fst waits
  · exact (perform_advances inv fits op).mono fun _ advances => advances.2

/-- A queue of one place: a request is turned away while the place is taken, and the slot of the
first one is used again by the third. -/
theorem markers_follow_queue_reused_slot :
    1 + 1 < 2 ^ 32 ∧
    Yields (List.foldlM perform (start 1 1 ({} : ScriptedMemory))
        [.enter (.read 0 0 0) 3, .enter (.write 1 64 0) 3, .fire, .send 3,
          .enter (.read 2 128 3) 0])
      fun side => side.Consistent ∧
        (∀ slot, side.nextSlot? = some slot → (side.gate.finishWait slot).1 = true) ∧
        ∀ op, Yields (side.perform op) (FlipsOnly side op) :=
  ⟨by decide, markers_follow_queue 1 1 (by decide) _ _⟩

end RequestSide

end GatedMemory
