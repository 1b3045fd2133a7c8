import GatedMemory.Proofs.SecureModule.Consistency

set_option autoImplicit false

namespace GatedMemory

variable {ρ μ α : Type}

namespace Gate

variable [ResponseSink ρ] [RequestSink μ] {config : SecureModuleConfig} {gate sent next : Gate}
  {exchanges requester memory : List Exchange} {tickets : List Ticket}
  {call : Call SecureEvent} {returned : Option Packet}

omit [ResponseSink ρ] in
theorem OffersRequest.size_slots (sends : gate.OffersRequest μ exchanges sent) :
    sent.slots.slots.size = gate.slots.slots.size := by
  cases sends with
  | idle => rfl
  | taken => exact SlotTable.size_release
  | refused => rfl

/-- Reserving a slot needs no more places than one for each request that can queue, and one more. -/
theorem Sized.size_acquire_le (sized : gate.Sized config tickets)
    (queued : gate.requests.items.length ≤ config.requestCapacity)
    (places : gate.slots.slots.size ≤ config.requestCapacity + 1) :
    gate.slots.acquire.2.slots.size ≤ config.requestCapacity + 1 := by
  have grown := SlotTable.size_acquire sized.tracks.sound
  have count := sized.tracks.count
  have length := sized.tracks.length_eq
  omega

/-- Whatever is called, the places of the slot table stay within the bound. -/
theorem Deals.size_slots_le (deals : gate.Deals ρ μ call returned requester memory next)
    (sized : gate.Sized config tickets)
    (queued : gate.requests.items.length ≤ config.requestCapacity)
    (places : gate.slots.slots.size ≤ config.requestCapacity + 1) :
    next.slots.slots.size ≤ config.requestCapacity + 1 := by
  cases deals with
  | idle => exact places
  | admitted room => exact sized.size_acquire_le queued places
  | refused full =>
    refine Nat.le_trans (Nat.le_of_eq ?_) (sized.size_acquire_le queued places)
    exact SlotTable.size_release
  | answered => exact places
  | declined => exact places
  | reopened sends =>
    rw [sends.size_slots]
    exact places
  | unblocked => exact places
  | checkOver =>
    refine Nat.le_trans (Nat.le_of_eq ?_) places
    exact SlotTable.size_finish
  | edge sends delivers =>
    have slots := delivers.frame.2.1
    refine Nat.le_trans (Nat.le_of_eq ?_) places
    rw [← sends.size_slots, ← slots]
    rfl

/-- Reserving a slot leaves what is queued as ready as it was. -/
theorem Tracks.isReady_acquire_queued (tracks : gate.Tracks tickets)
    (inUse : gate.slots.inUse < 2 ^ 32) (queued : QueuedRequest)
    (member : queued ∈ gate.requests.items) :
    gate.slots.acquire.2.isReady queued.slot = gate.slots.isReady queued.slot := by
  have listed : queued.slot ∈ gate.requests.items.map QueuedRequest.slot :=
    List.mem_map_of_mem member
  rw [tracks.slots] at listed
  obtain ⟨ticket, present, same⟩ := List.mem_map.1 listed
  rw [← same]
  exact tracks.isReady_acquire inUse present

/-- A gate that fits its configuration, and needs few places for its slots. -/
structure Housed (config : SecureModuleConfig) (gate : Gate) : Prop where
  consistent : gate.Consistent config
  sized : ∃ tickets, gate.Sized config tickets
  places : gate.slots.slots.size ≤ config.requestCapacity + 1

theorem housed_empty (config : SecureModuleConfig) :
    (Gate.empty config.requestCapacity config.responseCapacity).Housed config where
  consistent := consistent_empty config
  sized := ⟨[], sized_empty config⟩
  places := Nat.zero_le _

theorem Housed.deal (housed : gate.Housed config) (fits : config.requestCapacity + 1 < 2 ^ 32)
    (deals : gate.Deals ρ μ call returned requester memory next) : next.Housed config := by
  obtain ⟨tickets, sized⟩ := housed.sized
  have kept := housed.consistent.deal sized fits deals
  exact ⟨kept.1, kept.2, deals.size_slots_le sized housed.consistent.requests housed.places⟩

end Gate

/-- A check of the packet that begins now is over at a tick that a word can hold. -/
def SecureModuleConfig.CheckEnds (config : SecureModuleConfig) (now : Nat) (packet : Packet) :
    Prop :=
  ∀ cycles, config.holdCycles packet.command.kind = some cycles →
    Clock.edge now cycles config.clockPeriod < UInt64.size

namespace SecureModule

/-- Admission is all or nothing. A request of no kind is an error. If the queue is full, the request
comes back as it was and the requester is owed a retry. Otherwise it joins the end of the queue with
a slot that nothing in the queue has and that is not ready; its check ends as many cycles later as
its kind takes, and it counts for its kind. Nothing else changes, and whatever was queued is ready
if it was ready before. -/
structure Admits [Embed SecureEvent α] (config : SecureModuleConfig) (packet : Packet)
    (rig : Rig SecureModule ρ μ α) : Prop where
  unclassified : packet.command.kind = .other →
    request packet rig = .ok (.error (.unclassifiedCommand packet.command packet.address), rig)
  full : packet.command.kind ≠ .other →
    rig.component.gate.requests.items.length = config.requestCapacity →
    ∃ slots : SlotTable, slots.inUse = rig.component.gate.slots.inUse ∧
      (∀ queued ∈ rig.component.gate.requests.items,
        slots.isReady queued.slot = rig.component.gate.slots.isReady queued.slot) ∧
      request packet rig = .ok (.ok (.rejected packet),
        { rig with
          component := { rig.component with
            gate := { rig.component.gate with
              slots
              towardRequester :=
                { rig.component.gate.towardRequester with owesRetry := true } } } })
  room : packet.command.kind ≠ .other →
    rig.component.gate.requests.items.length < config.requestCapacity →
    ∃ (cycles : Nat) (slot : SlotId) (slots : SlotTable) (id : Nat) (events : EventQueue α),
      config.holdCycles packet.command.kind = some cycles ∧
      slots.isReady slot = false ∧
      slot ∉ rig.component.gate.requests.items.map QueuedRequest.slot ∧
      slots.inUse = rig.component.gate.slots.inUse + 1 ∧
      (∀ queued ∈ rig.component.gate.requests.items,
        slots.isReady queued.slot = rig.component.gate.slots.isReady queued.slot) ∧
      rig.events.schedule (Clock.edge rig.now cycles config.clockPeriod) Priority.standard
        (Embed.embed (SecureEvent.checkOver slot)) = .ok (id, events) ∧
      request packet rig = .ok (.ok .accepted,
        { rig with
          component := { rig.component with
            gate := { rig.component.gate with
              requests := { rig.component.gate.requests with
                items := rig.component.gate.requests.items ++ [⟨packet, slot⟩] }
              slots }
            stats := {
              reads := rig.component.stats.reads + if packet.command.kind = .read then 1 else 0
              writes := rig.component.stats.writes +
                if packet.command.kind = .write then 1 else 0 } }
          events })
  rejected_iff : (∃ back next, request packet rig = .ok (.ok (.rejected back), next)) ↔
    packet.command.kind ≠ .other ∧
      rig.component.gate.requests.items.length = config.requestCapacity

theorem exists_holdCycles (config : SecureModuleConfig) {kind : AccessKind}
    (classified : kind ≠ .other) : ∃ cycles, config.holdCycles kind = some cycles := by
  cases kind with
  | read => exact ⟨_, rfl⟩
  | write => exact ⟨_, rfl⟩
  | other => exact absurd rfl classified

theorem record_eq (stats : AdmissionStats) (kind : AccessKind) :
    stats.record kind = {
      reads := stats.reads + if kind = .read then 1 else 0
      writes := stats.writes + if kind = .write then 1 else 0 } := by
  cases kind <;> rfl

variable [Embed SecureEvent α] {config : SecureModuleConfig} {packet : Packet}
  {rig : Rig SecureModule ρ μ α} {tickets : List Ticket}

theorem request_of_unclassified (unclassified : packet.command.kind = .other) :
    request packet rig =
      .ok (.error (.unclassifiedCommand packet.command packet.address), rig) := by
  simp only [request, unclassified, SecureModuleConfig.holdCycles?, SecureModuleConfig.holdCycles,
    ok_bind]
  rfl

theorem request_of_ends {cycles : Nat} (period : 0 < rig.component.config.clockPeriod)
    (ends : rig.component.config.CheckEnds rig.now packet)
    (policy : rig.component.config.holdCycles packet.command.kind = some cycles) :
    request packet rig = .ok (considering rig packet cycles) := by
  obtain ⟨result, considered, rfl⟩ :=
    (request_considers rig policy period).yields_of_lt (ends cycles policy)
  exact considered

theorem request_of_full (period : 0 < rig.component.config.clockPeriod)
    (ends : rig.component.config.CheckEnds rig.now packet)
    (sized : rig.component.gate.Sized rig.component.config tickets)
    (classified : packet.command.kind ≠ .other)
    (full : rig.component.gate.requests.items.length = rig.component.config.requestCapacity) :
    request packet rig = .ok (.ok (.rejected packet), turningAway rig) := by
  obtain ⟨cycles, policy⟩ := exists_holdCycles rig.component.config classified
  rw [request_of_ends period ends policy, considering, if_neg]
  rw [sized.requests, full]
  exact Nat.lt_irrefl _

/-- A gate that fits its configuration admits as it should. -/
theorem admits_of_sized (period : 0 < config.clockPeriod)
    (fits : config.requestCapacity + 1 < 2 ^ 32) (ends : config.CheckEnds rig.now packet)
    (configured : rig.component.config = config)
    (sized : rig.component.gate.Sized config tickets)
    (queued : rig.component.gate.requests.items.length ≤ config.requestCapacity) :
    Admits config packet rig := by
  subst configured
  have tracks := sized.tracks
  have inUse := sized.inUse_lt queued fits
  refine ⟨request_of_unclassified, ?_, ?_, ?_⟩
  · intro classified full
    refine ⟨rig.component.gate.withoutRequest.slots, ?_, ?_,
      request_of_full period ends sized classified full⟩
    · rw [(tracks.turnAway inUse).count, tracks.count]
    · intro entry _
      exact tracks.isReady_withoutRequest inUse entry.slot
  · intro classified room
    obtain ⟨cycles, policy⟩ := exists_holdCycles rig.component.config classified
    have future : rig.events.now ≤
        Clock.edge rig.now cycles rig.component.config.clockPeriod := Clock.le_edge period
    refine ⟨cycles, rig.component.gate.slots.acquire.1, rig.component.gate.slots.acquire.2, _, _,
      policy, tracks.isReady_acquire_self inUse, ?_, SlotTable.inUse_acquire tracks.sound inUse,
      tracks.isReady_acquire_queued inUse, EventQueue.schedule_eq future _ _, ?_⟩
    · rw [tracks.slots]
      exact tracks.fresh inUse
    · rw [request_of_ends period ends policy, considering, if_pos (sized.requests ▸ room),
        admitting, record_eq]
      rfl
  · constructor
    · intro refused
      obtain ⟨back, next, refused⟩ := refused
      by_cases unclassified : packet.command.kind = .other
      · rw [request_of_unclassified unclassified] at refused
        cases refused
      · refine ⟨unclassified, ?_⟩
        by_contra free
        have room : rig.component.gate.requests.items.length <
            rig.component.gate.requests.capacity := by
          rw [sized.requests]
          omega
        obtain ⟨cycles, policy⟩ := exists_holdCycles rig.component.config unclassified
        rw [request_of_ends period ends policy, considering, if_pos room] at refused
        cases refused
    · intro full
      exact ⟨_, _, request_of_full period ends sized full.1 full.2⟩

end SecureModule

/-- A check that takes almost as long as a word can tell. -/
def SecureModuleConfig.distantChecks : SecureModuleConfig :=
  { commonLatency := 2 ^ 62 - 4, clockPeriod := 4 }

end GatedMemory
