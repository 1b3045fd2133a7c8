import GatedMemory.Proofs.SecureModule.Episodes

set_option autoImplicit false

namespace GatedMemory

variable {ρ μ : Type}

namespace Gate

variable {config : SecureModuleConfig} {gate sent : Gate} {exchanges : List Exchange}

/-- The queues are within their bounds, and what a blocked peer refused is first in line. -/
structure Coherent (config : SecureModuleConfig) (gate : Gate) : Prop where
  requests : gate.requests.items.length ≤ config.requestCapacity
  responses : gate.responses.items.length ≤ config.responseCapacity
  resends : gate.towardMemory.blocked = true →
    ∃ head rest, gate.requests.items = head :: rest ∧ gate.slots.isReady head.slot = true
  redelivers : gate.towardRequester.blocked = true → gate.responses.items ≠ []

/-- The flags and the queues fit together. -/
structure Consistent (config : SecureModuleConfig) (gate : Gate) : Prop
    extends gate.Coherent config where
  full : gate.towardMemory.owesRetry = true →
    gate.responses.items.length = config.responseCapacity

/-- The queues have the capacities that are configured, and the markers follow the queue. -/
structure Sized (config : SecureModuleConfig) (gate : Gate) (tickets : List Ticket) : Prop where
  requests : gate.requests.capacity = config.requestCapacity
  responses : gate.responses.capacity = config.responseCapacity
  tracks : gate.Tracks tickets

/-- The slots of a gate that fits its configuration can be numbered. -/
theorem Sized.inUse_lt {tickets : List Ticket} (sized : gate.Sized config tickets)
    (queued : gate.requests.items.length ≤ config.requestCapacity)
    (fits : config.requestCapacity + 1 < 2 ^ 32) : gate.slots.inUse < 2 ^ 32 := by
  have length := sized.tracks.length_eq
  rw [sized.tracks.count]
  omega

theorem consistent_empty (config : SecureModuleConfig) :
    (Gate.empty config.requestCapacity config.responseCapacity).Consistent config where
  requests := Nat.zero_le _
  responses := Nat.zero_le _
  resends := nofun
  redelivers := nofun
  full := nofun

theorem sized_empty (config : SecureModuleConfig) :
    (Gate.empty config.requestCapacity config.responseCapacity).Sized config [] where
  requests := rfl
  responses := rfl
  tracks := tracks_empty _ _

theorem Sized.sendRequest [RequestSink μ] {tickets : List Ticket}
    (sized : gate.Sized config tickets) (sends : gate.OffersRequest μ exchanges sent) :
    ∃ tickets, sent.Sized config tickets := by
  cases sends with
  | idle => exact ⟨tickets, sized⟩
  | taken unblocked items ready =>
    exact ⟨tickets.tail, sized.requests, sized.responses, sized.tracks.depart items⟩
  | refused unblocked items ready =>
    refine ⟨tickets, sized.requests, sized.responses, sized.tracks.congr rfl ?_⟩
    rw [items]
    rfl

theorem Sized.sendResponse [ResponseSink ρ] {tickets : List Ticket}
    (sized : gate.Sized config tickets) (delivers : gate.OffersResponse ρ exchanges sent) :
    sent.Sized config tickets := by
  cases delivers <;> exact ⟨sized.requests, sized.responses, sized.tracks.congr rfl rfl⟩

theorem Coherent.sendRequest [RequestSink μ] (coherent : gate.Coherent config)
    (sends : gate.OffersRequest μ exchanges sent) : sent.Coherent config := by
  have requests := coherent.requests
  cases sends with
  | idle => exact coherent
  | @taken head rest now unblocked items ready =>
    rw [items, List.length_cons] at requests
    refine { coherent with requests := Nat.le_of_succ_le requests, resends := fun blocked => ?_ }
    exact absurd (unblocked.symm.trans blocked) Bool.false_ne_true
  | @refused head rest back now _ _ unblocked items ready =>
    rw [items] at requests
    exact { coherent with requests := requests, resends := fun _ => ⟨_, rest, rfl, ready⟩ }

theorem Coherent.sendResponse [ResponseSink ρ] (coherent : gate.Coherent config)
    (delivers : gate.OffersResponse ρ exchanges sent) : sent.Coherent config := by
  have responses := coherent.responses
  cases delivers with
  | idle => exact coherent
  | @taken head rest now unblocked items =>
    rw [items, List.length_cons] at responses
    refine { coherent with
      responses := Nat.le_of_succ_le responses, redelivers := fun blocked => ?_ }
    exact absurd (unblocked.symm.trans blocked) Bool.false_ne_true
  | @refused head back rest now _ _ unblocked items =>
    rw [items] at responses
    exact { coherent with responses := responses, redelivers := fun _ => List.cons_ne_nil _ _ }

section

variable [ResponseSink ρ] [RequestSink μ] {next : Gate} {tickets : List Ticket}
  {call : Call SecureEvent} {returned : Option Packet} {requester memory : List Exchange}

theorem Consistent.deal (consistent : gate.Consistent config) (sized : gate.Sized config tickets)
    (fits : config.requestCapacity + 1 < 2 ^ 32)
    (deals : gate.Deals ρ μ call returned requester memory next) :
    next.Consistent config ∧ ∃ tickets, next.Sized config tickets := by
  have inUse := sized.inUse_lt consistent.requests fits
  cases deals with
  | idle => exact ⟨consistent, tickets, sized⟩
  | @admitted packet room =>
    refine ⟨{ consistent with requests := ?_, resends := fun blocked => ?_ }, _,
      sized.requests, sized.responses, sized.tracks.enter inUse packet 0⟩
    · rw [sized.requests] at room
      simp only [withRequest, List.length_append, List.length_singleton]
      exact room
    · obtain ⟨head, rest, items, ready⟩ := consistent.resends blocked
      obtain ⟨ticket, _, rfl, same⟩ := sized.tracks.head_ticket items
      refine ⟨head, rest ++ [⟨packet, gate.slots.acquire.1⟩], ?_, ?_⟩
      · simp only [withRequest, items, List.cons_append]
      · rw [← same] at ready ⊢
        exact (sized.tracks.isReady_acquire inUse List.mem_cons_self).trans ready
  | refused full =>
    refine ⟨{ consistent with resends := fun blocked => ?_ }, tickets,
      sized.requests, sized.responses, sized.tracks.turnAway inUse⟩
    obtain ⟨head, rest, items, ready⟩ := consistent.resends blocked
    exact ⟨head, rest, items, (sized.tracks.isReady_withoutRequest inUse _).trans ready⟩
  | @answered packet room =>
    refine ⟨{ consistent with
      responses := ?_
      redelivers := fun _ => ?_
      full := fun owed => absurd owed Bool.false_ne_true }, tickets,
      sized.requests, sized.responses, sized.tracks.congr rfl rfl⟩
    · rw [sized.responses] at room
      simp only [withResponse, List.length_append, List.length_singleton]
      exact room
    · simp [withResponse]
  | declined full =>
    rw [sized.responses] at full
    exact ⟨{ consistent with full := fun _ => Nat.le_antisymm consistent.responses full }, tickets,
      sized.requests, sized.responses, sized.tracks.congr rfl rfl⟩
  | reopened sends =>
    have coherent : gate.reopened.Coherent config :=
      { consistent with resends := fun blocked => absurd blocked Bool.false_ne_true }
    have sized' : gate.reopened.Sized config tickets :=
      ⟨sized.requests, sized.responses, sized.tracks.congr rfl rfl⟩
    obtain ⟨responses, -, owed, -⟩ := sends.frame
    refine ⟨{ coherent.sendRequest sends with full := fun owes => ?_ }, sized'.sendRequest sends⟩
    rw [responses]
    exact consistent.full (owed.symm.trans owes)
  | unblocked =>
    exact ⟨{ consistent with redelivers := fun blocked => absurd blocked Bool.false_ne_true },
      tickets, sized.requests, sized.responses, sized.tracks.congr rfl rfl⟩
  | @checkOver slot =>
    refine ⟨{ consistent with resends := fun blocked => ?_ }, tickets, sized.requests,
      sized.responses, sized.tracks.finishWait slot⟩
    obtain ⟨head, rest, items, ready⟩ := consistent.resends blocked
    exact ⟨head, rest, items, SlotTable.isReady_finish ready⟩
  | edge sends delivers =>
    -- the queues may drain while a retry is still owed, but none is owed in the end
    obtain ⟨left, sized'⟩ := sized.sendRequest sends
    have coherent := (consistent.sendRequest sends).sendResponse delivers
    have sized'' := sized'.sendResponse delivers
    exact ⟨{ coherent with full := fun owed => absurd owed Bool.false_ne_true }, left,
      sized''.requests, sized''.responses, sized''.tracks.congr rfl rfl⟩

end

end Gate

namespace Diary

/-- What a module keeps: its flags and its queues fit together, and a response that was admitted
found no retry that was still owed to memory. -/
structure Fits (config : SecureModuleConfig) (past : List (Episode SecureModule SecureEvent))
    (gate : Gate) : Prop where
  consistent : gate.Consistent config
  sized : ∃ tickets, gate.Sized config tickets
  admits : ∀ episode ∈ past, ∀ packet, episode.call = .response packet →
    episode.returned = none → episode.component.gate.towardMemory.owesRetry = false

theorem Fits.concat [ResponseSink ρ] [RequestSink μ] {config : SecureModuleConfig}
    (fits : config.requestCapacity + 1 < 2 ^ 32) {past : List (Episode SecureModule SecureEvent)}
    {episode : Episode SecureModule SecureEvent} {gate : Gate}
    (holds : Fits config past episode.component.gate) (leaves : episode.Leaves ρ μ gate) :
    Fits config (past ++ [episode]) gate := by
  obtain ⟨tickets, sized⟩ := holds.sized
  obtain ⟨consistent, resized⟩ := holds.consistent.deal sized fits leaves
  refine ⟨consistent, resized, fun other member packet call back => ?_⟩
  rcases List.mem_append.1 member with old | new
  · exact holds.admits other old packet call back
  · obtain rfl := List.mem_singleton.1 new
    rw [Episode.Leaves, call, back] at leaves
    have room := leaves.room_of_response
    rw [sized.responses] at room
    exact Bool.eq_false_iff.2 fun owed => Nat.ne_of_lt room (holds.consistent.full owed)

/-- Whatever is done to a module, its flags and its queues fit together, and a response that is
admitted finds no retry that is still owed to memory. -/
theorem flags_fit_queues [ResponseSink ρ] [RequestSink μ] (config : SecureModuleConfig)
    (valid : config.validate = .ok ()) (fits : config.requestCapacity + 1 < 2 ^ 32)
    (requester : ρ) (memory : μ) (happenings : List (Happening SecureEvent ρ μ)) :
    SecureModule.build config = .ok (SecureModule.fresh config) ∧
    Gives Overflow (happenings.foldlM live (blank (SecureModule.fresh config) requester memory))
      fun diary =>
        diary.rig.component.gate.Consistent config ∧
        ∀ episode ∈ diary.episodes, ∀ packet, episode.call = .response packet →
          episode.returned = none → episode.component.gate.towardMemory.owesRetry = false := by
  refine ⟨SecureModule.build_eq_ok valid, ?_⟩
  have keeps : ∀ past episode gate, Fits config past episode.component.gate →
      episode.Leaves ρ μ gate → Fits config (past ++ [episode]) gate :=
    fun _ _ _ holds leaves => holds.concat fits leaves
  have opening : Fits config [] (.empty config.requestCapacity config.responseCapacity) :=
    ⟨Gate.consistent_empty config, ⟨[], Gate.sized_empty config⟩,
      fun _ member => absurd member List.not_mem_nil⟩
  exact (module_keeps valid keeps opening requester memory happenings).mono fun diary holds =>
    ⟨holds.consistent, holds.admits⟩

/-- Each of the flags is up at some time. -/
theorem flags_fit_queues_single_places :
    SecureModuleConfig.validate .singlePlaces = .ok () ∧ 1 + 1 < 2 ^ 32 ∧
    SecureModule.build .singlePlaces = .ok (SecureModule.fresh .singlePlaces) ∧
    Yields (singlePlaceHappenings.foldlM live singlePlaces) fun diary =>
      (diary.rig.component.gate.Consistent .singlePlaces ∧
        ∀ episode ∈ diary.episodes, ∀ packet, episode.call = .response packet →
          episode.returned = none → episode.component.gate.towardMemory.owesRetry = false) ∧
      [diary.episodes.any (·.component.gate.towardMemory.blocked),
        diary.episodes.any (·.component.gate.towardRequester.blocked),
        diary.episodes.any (·.component.gate.towardMemory.owesRetry),
        diary.episodes.any (·.component.gate.towardRequester.owesRetry)] =
          [true, true, true, true] := by
  obtain ⟨built, fits⟩ :=
    flags_fit_queues .singlePlaces rfl (by decide) _ _ singlePlaceHappenings
  refine ⟨rfl, by decide, built, (fits.and_of_map ?_).yields_of_isOk ?_⟩ <;> decide +kernel

end Diary

end GatedMemory
