import GatedMemory.Proofs.Markers

set_option autoImplicit false

namespace GatedMemory

variable {α : Type}

/-- When the wait of a ticket ends, and with which event. -/
def Ticket.completion (elapsed : SlotId → α) (ticket : Ticket) : Nat × α :=
  (ticket.readyAt, elapsed ticket.slot)

/-- What is left of two parts, if only elements of the first one were left out. -/
theorem exists_perm_append_of_filter {β : Type} {counts : β → Bool}
    {before later apart counted : List β} (split : before.Perm (apart ++ counted))
    (none : ∀ item ∈ apart, counts item = false) (all : ∀ item ∈ counted, counts item = true)
    (same : later.filter counts = before.filter counts) (fewer : later ⊆ before) :
    ∃ left, left ⊆ apart ∧ later.Perm (left ++ counted) := by
  refine ⟨later.filter fun item => !counts item, ?_, ?_⟩
  · intro item member
    obtain ⟨present, uncounted⟩ := List.mem_filter.1 member
    rcases List.mem_append.1 (split.mem_iff.1 (fewer present)) with left | right
    · exact left
    · rw [all item right] at uncounted
      cases uncounted
  · have first : apart.filter counts = [] :=
      List.filter_eq_nil_iff.2 fun item member => by simp [none item member]
    have second : counted.filter counts = counted := List.filter_eq_self.2 all
    have kept : (later.filter counts).Perm counted := by
      have filtered := split.filter counts
      rwa [List.filter_append, first, second, List.nil_append, ← same] at filtered
    have parts := (List.filter_append_perm counts later).symm
    exact (parts.trans List.perm_append_comm).trans (kept.append_left _)

namespace Gate

variable {elapsed : SlotId → α} {gate : Gate} {events : EventQueue α} {tickets : List Ticket}
  {others : List (Nat × α)}

/-- The markers follow the queue, and what is to fire are the completions of the requests that
still wait, and the others. -/
structure Timed (elapsed : SlotId → α) (gate : Gate) (events : EventQueue α)
    (tickets : List Ticket) (others : List (Nat × α)) : Prop where
  tracks : gate.Tracks tickets
  awaits : events.Awaits (others ++ (gate.unready tickets).map (Ticket.completion elapsed))
  matured : gate.Matured tickets events.now
  bounded : gate.requests.items.length ≤ gate.requests.capacity

theorem timed_empty (elapsed : SlotId → α) (requestCapacity responseCapacity : Nat) :
    (Gate.empty requestCapacity responseCapacity).Timed elapsed .empty [] [] where
  tracks := Gate.tracks_empty requestCapacity responseCapacity
  awaits := EventQueue.awaits_empty
  matured := nofun
  bounded := Nat.zero_le _

namespace Timed

variable (timed : gate.Timed elapsed events tickets others)
include timed

/-- The gate may change outside its slots and those of its queue. -/
theorem congr {next : Gate} (slots : next.slots = gate.slots)
    (queued : next.requests.items.map QueuedRequest.slot =
      gate.requests.items.map QueuedRequest.slot)
    (capacity : next.requests.capacity = gate.requests.capacity) :
    next.Timed elapsed events tickets others where
  tracks := timed.tracks.congr slots queued
  awaits := by
    rw [unready_congr slots]
    exact timed.awaits
  matured := timed.matured.congr slots
  bounded := by
    have length := congrArg List.length queued
    simp only [List.length_map] at length
    rw [length, capacity]
    exact timed.bounded

section Admission

variable (fits : gate.requests.capacity + 1 < 2 ^ 32)
include fits

theorem inUse_lt : gate.slots.inUse < 2 ^ 32 := by
  have length := timed.tracks.length_eq
  have bounded := timed.bounded
  rw [timed.tracks.count]
  omega

theorem enter {readyAt : Nat} (space : gate.requests.items.length < gate.requests.capacity)
    (future : events.now ≤ readyAt) (packet : Packet) :
    (gate.withRequest packet).Timed elapsed
      (events.scheduled readyAt Priority.standard (elapsed gate.slots.acquire.1))
      (tickets ++ [⟨gate.slots.acquire.1, readyAt⟩]) others where
  tracks := timed.tracks.enter (timed.inUse_lt fits) packet readyAt
  awaits := by
    rw [timed.tracks.unready_enter (timed.inUse_lt fits), List.map_append, ← List.append_assoc]
    exact (timed.awaits.schedule future _ _).reorder (List.perm_append_singleton _ _).symm
  matured := timed.tracks.matured_enter (timed.inUse_lt fits) timed.matured packet readyAt
  bounded := by
    simp only [withRequest, List.length_append, List.length_singleton]
    exact space

theorem turnAway : gate.withoutRequest.Timed elapsed events tickets others := by
  have ready := timed.tracks.isReady_withoutRequest (timed.inUse_lt fits)
  have same : gate.withoutRequest.unready tickets = gate.unready tickets := by
    simp only [unready, ready]
  refine ⟨timed.tracks.turnAway (timed.inUse_lt fits), ?_, ?_, timed.bounded⟩
  · rw [same]
    exact timed.awaits
  · intro ticket member
    rw [ready]
    exact timed.matured ticket member

end Admission

theorem depart {head : QueuedRequest} {rest : List QueuedRequest}
    (items : gate.requests.items = head :: rest) (ready : gate.slots.isReady head.slot = true) :
    (gate.dropHead head rest).Timed elapsed events tickets.tail others where
  tracks := timed.tracks.depart items
  awaits := by
    rw [timed.tracks.unready_depart items ready]
    exact timed.awaits
  matured := timed.tracks.matured_depart items timed.matured
  bounded := by
    have bounded := timed.bounded
    rw [items] at bounded
    exact Nat.le_of_succ_le bounded

theorem stay {head : QueuedRequest} {rest : List QueuedRequest}
    (items : gate.requests.items = head :: rest) (back : Packet) :
    (gate.keepHead { head with packet := back } rest).Timed elapsed events tickets others := by
  have slots : (gate.keepHead { head with packet := back } rest).slots = gate.slots := rfl
  have queued : (gate.keepHead { head with packet := back } rest).requests.items.map
      QueuedRequest.slot = gate.requests.items.map QueuedRequest.slot := by
    rw [items]
    rfl
  exact timed.congr slots queued rfl

theorem schedule {tick : Nat} (future : events.now ≤ tick) (priority : Int) (payload : α) :
    gate.Timed elapsed (events.scheduled tick priority payload) tickets
      ((tick, payload) :: others) where
  tracks := timed.tracks
  awaits := timed.awaits.schedule future priority payload
  matured := timed.matured
  bounded := timed.bounded

theorem cancel [DecidableEq α] {id : Nat}
    (only : ∀ entry ∈ events.pending, entry.id = id → ∀ slot, entry.payload ≠ elapsed slot)
    (apart : ∀ other ∈ others, ∀ slot, other.2 ≠ elapsed slot) : ∃ left, left ⊆ others ∧
      gate.Timed elapsed (events.cancel id) tickets left := by
  have waits : ∀ event ∈ (gate.unready tickets).map (Ticket.completion elapsed),
      ∃ slot, event.2 = elapsed slot := by
    intro event member
    obtain ⟨ticket, -, rfl⟩ := List.mem_map.1 member
    exact ⟨ticket.slot, rfl⟩
  have same : (events.cancel id).agenda.filter (fun event => decide
      (event ∈ (gate.unready tickets).map (Ticket.completion elapsed))) =
      events.agenda.filter fun event => decide
        (event ∈ (gate.unready tickets).map (Ticket.completion elapsed)) := by
    simp only [EventQueue.agenda, EventQueue.cancel, List.filter_map, List.filter_filter]
    congr 1
    apply List.filter_congr
    intro entry member
    by_cases equal : entry.id = id
    · have none : (entry.tick, entry.payload) ∉
          (gate.unready tickets).map (Ticket.completion elapsed) := by
        intro present
        obtain ⟨slot, payload⟩ := waits _ present
        exact only entry member equal slot payload
      simp only [Function.comp_apply, none, decide_false, Bool.false_and]
    · simp only [bne_iff_ne.2 equal, Bool.and_true]
  have fewer : (events.cancel id).agenda ⊆ events.agenda := by
    intro event member
    obtain ⟨entry, pending, rfl⟩ := List.mem_map.1 member
    exact List.mem_map.2 ⟨entry, (EventQueue.mem_cancel.1 pending).1, rfl⟩
  have none : ∀ other ∈ others, decide
      (other ∈ (gate.unready tickets).map (Ticket.completion elapsed)) = false := by
    intro other member
    refine decide_eq_false fun present => ?_
    obtain ⟨slot, payload⟩ := waits other present
    exact apart other member slot payload
  obtain ⟨left, inside, agenda⟩ := exists_perm_append_of_filter timed.awaits.agenda none
    (fun event member => decide_eq_true member) same fewer
  exact ⟨left, inside, timed.tracks,
    ⟨EventQueue.cancel_sound timed.awaits.sound id, agenda⟩, timed.matured, timed.bounded⟩

theorem reorder {others' : List (Nat × α)} (same : others.Perm others') :
    gate.Timed elapsed events tickets others' where
  tracks := timed.tracks
  awaits := timed.awaits.reorder (same.append_right _)
  matured := timed.matured
  bounded := timed.bounded

theorem wait {tick : Nat} (idle : ∀ entry ∈ events.pending, tick ≤ entry.tick) :
    gate.Timed elapsed (events.moveTo tick) tickets others where
  tracks := timed.tracks
  awaits := timed.awaits.wait idle
  matured := timed.matured.mono (Nat.le_max_left _ _)
  bounded := timed.bounded

section Firing

variable {entry : EventEntry α} {rest : List (EventEntry α)}
  (pending : events.pending = entry :: rest)
include pending

/-- What fires is one of the others, or the completion of a request that still waits. -/
theorem fires : (entry.tick, entry.payload) ∈ others ∨
    ∃ ticket ∈ gate.unready tickets, ticket.completion elapsed = (entry.tick, entry.payload) := by
  rcases List.mem_append.1 (timed.awaits.fires pending) with other | completion
  · exact .inl other
  · exact .inr (List.mem_map.1 completion)

theorem finish {ticket : Ticket} (waits : ticket ∈ gate.unready tickets)
    (completes : ticket.completion elapsed = (entry.tick, entry.payload)) :
    (gate.finishWait ticket.slot).2.Timed elapsed (events.after entry rest) tickets others where
  tracks := timed.tracks.finish waits
  awaits := by
    have split := (timed.tracks.unready_finish waits).map (Ticket.completion elapsed)
    rw [List.map_cons, completes] at split
    exact timed.awaits.fire pending ((split.append_left others).trans List.perm_middle)
  matured := by
    have due : ticket.readyAt = entry.tick := congrArg Prod.fst completes
    exact timed.tracks.matured_finish waits (timed.matured.mono (timed.awaits.now_le pending))
      (Nat.le_of_eq due)
  bounded := timed.bounded

/-- When an event fires that comes after the completions of its tick, the waits that are due to end
by then are over. -/
theorem lt_readyAt {rank : α → Int} (ranked : events.Ranked rank)
    (urgent : ∀ slot, rank (elapsed slot) < rank entry.payload) :
    ∀ ticket ∈ gate.unready tickets, entry.tick < ticket.readyAt := by
  intro ticket member
  have coming := timed.awaits.agenda.mem_iff.2
    (List.mem_append_right _ (List.mem_map_of_mem member))
  exact ranked.first_lt pending timed.awaits.sound coming (urgent ticket.slot)

theorem fire {left : List (Nat × α)} (split : others.Perm ((entry.tick, entry.payload) :: left)) :
    gate.Timed elapsed (events.after entry rest) tickets left where
  tracks := timed.tracks
  awaits := timed.awaits.fire pending (split.append_right _)
  matured := timed.matured.mono (timed.awaits.now_le pending)
  bounded := timed.bounded

end Firing

end Timed

end Gate

end GatedMemory
