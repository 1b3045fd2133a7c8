import GatedMemory.Proofs.Gate
import Mathlib.Data.List.Nodup

set_option autoImplicit false

namespace GatedMemory

/-- The slot of a queued request, and when its wait is due to end. -/
structure Ticket where
  slot : SlotId
  readyAt : Nat
deriving DecidableEq

/-- One element changes from counted to not counted, and no other changes. -/
theorem filter_perm_cons_of_flip {β : Type} [DecidableEq β] {items : List β} {item : β}
    {before later : β → Bool} (distinct : items.Nodup) (member : item ∈ items)
    (counted : before item = true) (dropped : later item = false)
    (others : ∀ other ∈ items, other ≠ item → later other = before other) :
    (items.filter before).Perm (item :: items.filter later) := by
  have split := List.perm_cons_erase member
  have same : (items.erase item).filter before = (items.erase item).filter later := by
    apply List.filter_congr
    intro other present
    obtain ⟨apart, inside⟩ := distinct.mem_erase_iff.1 present
    exact (others other inside apart).symm
  have left : (items.filter before).Perm (item :: (items.erase item).filter before) := by
    simpa only [List.filter_cons_of_pos counted] using split.filter before
  have right : (items.filter later).Perm ((items.erase item).filter later) := by
    simpa only [List.filter_cons_of_neg (by simp [dropped] : ¬ later item = true)] using
      split.filter later
  rw [same] at left
  exact left.trans (right.symm.cons item)

namespace Gate

variable {gate : Gate} {tickets : List Ticket} {ticket : Ticket}

/-- The reserved slots are those of the tickets, and the tickets those of the queue. -/
structure Tracks (gate : Gate) (tickets : List Ticket) : Prop where
  sound : gate.slots.Sound
  slots : gate.requests.items.map QueuedRequest.slot = tickets.map Ticket.slot
  distinct : (tickets.map Ticket.slot).Nodup
  live_iff : ∀ id, (gate.slots.find? id).isSome = true ↔ id ∈ tickets.map Ticket.slot
  count : gate.slots.inUse = tickets.length

def unready (gate : Gate) (tickets : List Ticket) : List Ticket :=
  tickets.filter fun ticket => !gate.slots.isReady ticket.slot

/-- A marker is ready only if its time has come. -/
def Matured (gate : Gate) (tickets : List Ticket) (now : Nat) : Prop :=
  ∀ ticket ∈ tickets, gate.slots.isReady ticket.slot = true → ticket.readyAt ≤ now

theorem Matured.mono {now later : Nat} (matured : gate.Matured tickets now)
    (order : now ≤ later) : gate.Matured tickets later :=
  fun ticket member ready => Nat.le_trans (matured ticket member ready) order

theorem tracks_empty (requestCapacity responseCapacity : Nat) :
    (Gate.empty requestCapacity responseCapacity).Tracks [] where
  sound := SlotTable.sound_empty
  slots := rfl
  distinct := List.nodup_nil
  live_iff id := by simp [Gate.empty, SlotTable.empty, SlotTable.find?]
  count := rfl

/-- What tracking says depends on the slots, in the table and in the queue, alone. -/
theorem Tracks.congr {next : Gate} (tracks : gate.Tracks tickets)
    (slots : next.slots = gate.slots)
    (queued : next.requests.items.map QueuedRequest.slot =
      gate.requests.items.map QueuedRequest.slot) : next.Tracks tickets where
  sound := slots ▸ tracks.sound
  slots := queued.trans tracks.slots
  distinct := tracks.distinct
  live_iff := slots ▸ tracks.live_iff
  count := slots ▸ tracks.count

theorem unready_congr {next : Gate} (slots : next.slots = gate.slots) :
    next.unready tickets = gate.unready tickets := by
  simp only [unready, slots]

theorem Matured.congr {next : Gate} {now : Nat} (matured : gate.Matured tickets now)
    (slots : next.slots = gate.slots) : next.Matured tickets now := by
  unfold Matured
  rw [slots]
  exact matured

theorem mem_unready : ticket ∈ gate.unready tickets ↔
    ticket ∈ tickets ∧ gate.slots.isReady ticket.slot = false := by
  simp only [unready, List.mem_filter, Bool.not_eq_true']

namespace Tracks

variable (tracks : gate.Tracks tickets)
include tracks

theorem live (member : ticket ∈ tickets) : (gate.slots.find? ticket.slot).isSome = true :=
  (tracks.live_iff _).2 (List.mem_map_of_mem member)

theorem eq_of_slot {other : Ticket} (left : ticket ∈ tickets) (right : other ∈ tickets)
    (same : ticket.slot = other.slot) : ticket = other :=
  List.inj_on_of_nodup_map tracks.distinct left right same

theorem length_eq : gate.requests.items.length = tickets.length := by
  simpa only [List.length_map] using congrArg List.length tracks.slots

section Admission

variable (room : gate.slots.inUse < 2 ^ 32)
include room

theorem fresh : gate.slots.acquire.1 ∉ tickets.map Ticket.slot := by
  intro member
  have live := (tracks.live_iff _).2 member
  rw [SlotTable.find?_acquire_before tracks.sound room] at live
  cases live

theorem apart_of_mem (member : ticket ∈ tickets) : ticket.slot ≠ gate.slots.acquire.1 :=
  fun same => tracks.fresh room (same ▸ List.mem_map_of_mem member)

theorem isReady_acquire (member : ticket ∈ tickets) :
    gate.slots.acquire.2.isReady ticket.slot = gate.slots.isReady ticket.slot :=
  SlotTable.isReady_congr
    (SlotTable.find?_acquire_of_ne tracks.sound room (tracks.apart_of_mem room member))

theorem isReady_acquire_self : gate.slots.acquire.2.isReady gate.slots.acquire.1 = false := by
  simp [SlotTable.isReady, SlotTable.find?_acquire_self tracks.sound room]

theorem enter (packet : Packet) (readyAt : Nat) :
    (gate.withRequest packet).Tracks (tickets ++ [⟨gate.slots.acquire.1, readyAt⟩]) where
  sound := SlotTable.acquire_sound tracks.sound room
  slots := by simp only [withRequest, List.map_append, tracks.slots, List.map_cons, List.map_nil]
  distinct := by
    rw [List.map_append, List.nodup_append]
    refine ⟨tracks.distinct, by simp, ?_⟩
    intro id old fresh member same
    simp only [List.map_cons, List.map_nil, List.mem_singleton] at member
    exact tracks.fresh room (member ▸ same ▸ old)
  live_iff id := by
    simp only [withRequest, List.map_append, List.map_cons, List.map_nil, List.mem_append,
      List.mem_singleton]
    by_cases same : id = gate.slots.acquire.1
    · subst same
      simp [SlotTable.find?_acquire_self tracks.sound room]
    · rw [SlotTable.find?_acquire_of_ne tracks.sound room same, tracks.live_iff]
      simp only [same, or_false]
  count := by
    simp only [withRequest, List.length_append, List.length_singleton]
    rw [SlotTable.inUse_acquire tracks.sound room, tracks.count]

theorem unready_enter (packet : Packet) (readyAt : Nat) :
    (gate.withRequest packet).unready (tickets ++ [⟨gate.slots.acquire.1, readyAt⟩]) =
      gate.unready tickets ++ [⟨gate.slots.acquire.1, readyAt⟩] := by
  have kept : tickets.filter (fun ticket => !gate.slots.acquire.2.isReady ticket.slot) =
      tickets.filter fun ticket => !gate.slots.isReady ticket.slot := by
    apply List.filter_congr
    intro ticket member
    rw [tracks.isReady_acquire room member]
  simp only [unready, withRequest, List.filter_append, kept, List.filter_singleton,
    tracks.isReady_acquire_self room, Bool.not_false, cond_true]

theorem matured_enter {now : Nat} (matured : gate.Matured tickets now) (packet : Packet)
    (readyAt : Nat) :
    (gate.withRequest packet).Matured (tickets ++ [⟨gate.slots.acquire.1, readyAt⟩]) now := by
  intro ticket member ready
  simp only [withRequest] at ready
  rcases List.mem_append.1 member with old | fresh
  · rw [tracks.isReady_acquire room old] at ready
    exact matured ticket old ready
  · rw [List.mem_singleton.1 fresh, tracks.isReady_acquire_self room] at ready
    cases ready

/-- Reserving a slot and giving it back leaves every handle as it was. -/
theorem find?_withoutRequest (id : SlotId) :
    gate.withoutRequest.slots.find? id = gate.slots.find? id := by
  have live : (gate.slots.acquire.2.find? gate.slots.acquire.1).isSome = true := by
    rw [SlotTable.find?_acquire_self tracks.sound room]
    rfl
  by_cases same : id = gate.slots.acquire.1
  · rw [same, SlotTable.find?_acquire_before tracks.sound room]
    exact SlotTable.find?_release_self live
  · rw [← SlotTable.find?_acquire_of_ne tracks.sound room same]
    exact SlotTable.find?_release_of_ne live same

theorem turnAway : gate.withoutRequest.Tracks tickets where
  sound := by
    apply SlotTable.release_sound _ (SlotTable.acquire_sound tracks.sound room)
    rw [SlotTable.find?_acquire_self tracks.sound room]
    rfl
  slots := tracks.slots
  distinct := tracks.distinct
  live_iff id := by rw [tracks.find?_withoutRequest room, tracks.live_iff]
  count := by
    have live : (gate.slots.acquire.2.find? gate.slots.acquire.1).isSome = true := by
      rw [SlotTable.find?_acquire_self tracks.sound room]
      rfl
    have back := SlotTable.inUse_release live (SlotTable.acquire_sound tracks.sound room)
    rw [SlotTable.inUse_acquire tracks.sound room] at back
    rw [← tracks.count]
    exact Nat.succ.inj back

theorem isReady_withoutRequest (id : SlotId) :
    gate.withoutRequest.slots.isReady id = gate.slots.isReady id :=
  SlotTable.isReady_congr (tracks.find?_withoutRequest room id)

end Admission

section Departure

variable {head : QueuedRequest} {rest : List QueuedRequest}
  (items : gate.requests.items = head :: rest)
include items

theorem head_ticket : ∃ first later, tickets = first :: later ∧ first.slot = head.slot := by
  have slots := tracks.slots
  rw [items] at slots
  cases tickets with
  | nil => cases slots
  | cons first later =>
    obtain ⟨same, -⟩ := List.cons.inj slots
    exact ⟨first, later, rfl, same.symm⟩

theorem depart : (gate.dropHead head rest).Tracks tickets.tail := by
  obtain ⟨first, later, rfl, same⟩ := tracks.head_ticket items
  have live : (gate.slots.find? head.slot).isSome = true := by
    rw [← same]
    exact tracks.live List.mem_cons_self
  obtain ⟨absent, distinct⟩ := List.nodup_cons.1 tracks.distinct
  refine ⟨SlotTable.release_sound live tracks.sound, ?_, distinct, ?_, ?_⟩
  · have slots := tracks.slots
    rw [items] at slots
    exact (List.cons.inj slots).2
  · intro id
    simp only [dropHead, List.tail_cons]
    by_cases equal : id = head.slot
    · rw [equal, SlotTable.find?_release_self live, ← same]
      simp only [Option.isSome_none, Bool.false_eq_true, false_iff]
      exact absent
    · rw [SlotTable.find?_release_of_ne live equal, tracks.live_iff, List.map_cons,
        List.mem_cons, same]
      simp only [equal, false_or]
  · have count := SlotTable.inUse_release live tracks.sound
    rw [tracks.count] at count
    exact Nat.succ.inj count

theorem isReady_depart (member : ticket ∈ tickets.tail) :
    (gate.dropHead head rest).slots.isReady ticket.slot = gate.slots.isReady ticket.slot := by
  obtain ⟨first, later, rfl, same⟩ := tracks.head_ticket items
  have live : (gate.slots.find? head.slot).isSome = true := by
    rw [← same]
    exact tracks.live List.mem_cons_self
  apply SlotTable.isReady_congr
  apply SlotTable.find?_release_of_ne live
  intro equal
  apply (List.nodup_cons.1 tracks.distinct).1
  rw [same, ← equal]
  exact List.mem_map_of_mem member

theorem unready_depart (ready : gate.slots.isReady head.slot = true) :
    (gate.dropHead head rest).unready tickets.tail = gate.unready tickets := by
  have kept : (gate.dropHead head rest).unready tickets.tail = gate.unready tickets.tail := by
    apply List.filter_congr
    intro ticket member
    rw [tracks.isReady_depart items member]
  obtain ⟨first, later, rfl, same⟩ := tracks.head_ticket items
  rw [kept]
  simp [unready, same, ready]

theorem matured_depart {now : Nat} (matured : gate.Matured tickets now) :
    (gate.dropHead head rest).Matured tickets.tail now := by
  intro ticket member ready
  rw [tracks.isReady_depart items member] at ready
  exact matured ticket (List.mem_of_mem_tail member) ready

end Departure

section Wait

variable (waits : ticket ∈ gate.unready tickets)
include waits

theorem isWaiting : gate.slots.isWaiting ticket.slot = true :=
  have ⟨member, unready⟩ := mem_unready.1 waits
  SlotTable.isWaiting_of_not_ready (tracks.live member) unready

/-- A completion that was not delivered before takes effect. -/
theorem finishWait_fst : (gate.finishWait ticket.slot).1 = true := by
  simp only [finishWait, SlotTable.finish_fst, tracks.isWaiting waits]

theorem finish : (gate.finishWait ticket.slot).2.Tracks tickets where
  sound := SlotTable.finish_sound tracks.sound
  slots := tracks.slots
  distinct := tracks.distinct
  live_iff id := by
    simp only [finishWait]
    by_cases same : id = ticket.slot
    · rw [same, SlotTable.find?_finish_self (tracks.isWaiting waits), ← tracks.live_iff,
        tracks.live (mem_unready.1 waits).1]
      rfl
    · rw [SlotTable.find?_finish_of_ne same, tracks.live_iff]
  count := by simp only [finishWait, SlotTable.inUse_finish, tracks.count]

theorem isReady_finish_self :
    (gate.finishWait ticket.slot).2.slots.isReady ticket.slot = true :=
  SlotTable.isReady_iff.2 (SlotTable.find?_finish_self (tracks.isWaiting waits))

omit tracks waits in
theorem isReady_finish_of_ne {id : SlotId} (apart : id ≠ ticket.slot) :
    (gate.finishWait ticket.slot).2.slots.isReady id = gate.slots.isReady id :=
  SlotTable.isReady_congr (SlotTable.find?_finish_of_ne apart)

theorem unready_finish : (gate.unready tickets).Perm
    (ticket :: (gate.finishWait ticket.slot).2.unready tickets) := by
  obtain ⟨member, unready⟩ := mem_unready.1 waits
  apply filter_perm_cons_of_flip (tracks.distinct.of_map _) member
  · simp only [unready, Bool.not_false]
  · simp only [tracks.isReady_finish_self waits, Bool.not_true]
  · intro other present apart
    rw [isReady_finish_of_ne fun same => apart (tracks.eq_of_slot present member same)]

theorem matured_finish {now : Nat} (matured : gate.Matured tickets now)
    (due : ticket.readyAt ≤ now) : (gate.finishWait ticket.slot).2.Matured tickets now := by
  intro other present ready
  by_cases same : other.slot = ticket.slot
  · rw [tracks.eq_of_slot present (mem_unready.1 waits).1 same]
    exact due
  · rw [isReady_finish_of_ne same] at ready
    exact matured other present ready

end Wait

/-- Whichever slot an end is reported for, the markers follow the queue. -/
theorem finishWait (slot : SlotId) : (gate.finishWait slot).2.Tracks tickets := by
  cases waiting : gate.slots.isWaiting slot with
  | false =>
    have same : (gate.finishWait slot).2 = gate := by
      simp only [Gate.finishWait, SlotTable.finish_of_not_waiting waiting]
    rw [same]
    exact tracks
  | true =>
    have live : (gate.slots.find? slot).isSome = true := by
      rw [SlotTable.isWaiting_iff.1 waiting]
      rfl
    obtain ⟨ticket, member, rfl⟩ := List.mem_map.1 ((tracks.live_iff slot).1 live)
    refine tracks.finish (mem_unready.2 ⟨member, Bool.eq_false_iff.2 fun ready => ?_⟩)
    rw [SlotTable.not_isWaiting_of_ready ready] at waiting
    cases waiting

end Tracks

end Gate

end GatedMemory
