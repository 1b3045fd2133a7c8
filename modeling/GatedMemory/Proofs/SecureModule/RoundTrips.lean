import GatedMemory.Proofs.Benchmark
import GatedMemory.Proofs.SecureModule.Provenance
import GatedMemory.Proofs.SecureModule.Vetting

set_option autoImplicit false

namespace GatedMemory

/-- The time from the first offer of a request to the delivery of its response, for each response
that was delivered. -/
def Dated.roundTrips (dated : Dated RecordedRequester) : List Nat :=
  dated.peer.receipts.map fun receipt =>
    receipt.1 - (firstOffer? dated.offers receipt.2.id).elim 0 Prod.fst

namespace Pipeline

/-- What is known of the pipeline in the course of a run. -/
structure Audited (config : BenchmarkConfig) (log : List (Nat × Packet)) (clock edge : Nat)
    (checks : List (Nat × SlotId)) (pipe : Pipeline) : Prop where
  traced : pipe.Traced log clock
  creates : pipe.requester.peer.Creates config clock
  vetted : config.slotsInUse ≤ 2 ^ 32 → ∃ tickets, Vetted config pipe edge checks tickets

theorem audited_lasting (config : BenchmarkConfig) : Lasting (Audited config) where
  wait audited driver _ passed :=
    { traced := { audited.traced with }
      creates := audited.creates
      vetted := fun few => by
        obtain ⟨tickets, vetted⟩ := audited.vetted few
        exact ⟨tickets, vetted.wait driver passed⟩ }
  check audited _ member _ passed due :=
    { traced := audited.traced.congr rfl rfl rfl rfl
      creates := audited.creates
      vetted := fun few => by
        obtain ⟨tickets, vetted⟩ := audited.vetted few
        exact ⟨tickets, vetted.finish member passed due⟩ }
  work {log clock checks pipe} audited ordered now :=
    { traced := audited.traced.edgeWork ordered now
      creates := edgeWork_requester pipe (fun requester => requester.peer.Creates config clock)
        (fun _ packet creates => creates.receive packet _) (fun _ creates => { creates with })
        audited.creates
      vetted := fun few => by
        obtain ⟨tickets, vetted⟩ := audited.vetted few
        subst now
        obtain ⟨tickets, worked⟩ := vetted.edgeWork ordered
        exact ⟨tickets, worked.mono (Nat.le_add_right _ _)⟩ }
  serve audited _ now before serves :=
    { traced := audited.traced.serve serves
      creates := by
        obtain ⟨requester, -, -⟩ := serves.frame
        exact requester ▸ audited.creates
      vetted := fun few => by
        obtain ⟨tickets, vetted⟩ := audited.vetted few
        exact ⟨tickets, vetted.serve (now ▸ before) serves⟩ }
  retry audited _ _ _ retries :=
    { traced := audited.traced.retry retries
      creates := by
        obtain ⟨requester, -, -⟩ := retries.frame
        exact requester ▸ audited.creates
      vetted := fun few => by
        obtain ⟨tickets, vetted⟩ := audited.vetted few
        exact vetted.retry retries }
  send {log clock edge checks opened pipe next offered} audited ordered now _ sends :=
    { traced := audited.traced.send now sends ordered
      creates := by
        cases sends with
        | idle => exact audited.creates.wait
        | admitted offers => exact { audited.creates.offer ordered.regular offers with }
        | refused offers => exact { audited.creates.offer ordered.regular offers with }
      vetted := fun few => by
        obtain ⟨tickets, vetted⟩ := audited.vetted few
        exact vetted.send ordered audited.creates few (audited.traced.createdAt_le_now now sends)
          sends }

theorem opening_audited (config : BenchmarkConfig) :
    Audited config [] 0 config.secureModule.clockPeriod []
      (Simulation.opening config.secureModule
        (Recorded.blank (RequestGenerator.fresh config.workload))
        (Recorded.blank (MemoryModel.idle config.memory))).rig where
  traced := { assemble_traced config.secureModule config.memory config.workload with }
  creates := {
    workload := rfl
    created := Nat.zero_le _
    window := Nat.zero_le _ }
  vetted _ := ⟨[], { assemble_vetted config config.secureModule.clockPeriod with }⟩

namespace Audited

variable {config : BenchmarkConfig} {log : List (Nat × Packet)} {clock edge : Nat}
  {checks : List (Nat × SlotId)} {pipe : Pipeline}
  (audited : Audited config log clock edge checks pipe)
include audited

/-- Every response that was delivered answers a request that was offered first when the response
says, and no later. -/
theorem answered {receipt : Nat × Packet} (member : receipt ∈ pipe.requester.receipts) :
    ∃ request : Packet, firstOffer? log receipt.2.id = some (receipt.2.createdAt, request) ∧
      request.response? = some receipt.2 ∧ receipt.2.createdAt ≤ receipt.1 := by
  have taken : receipt.2 ∈ pipe.prepared := by
    refine List.mem_append_left _ (List.mem_append_left _ ?_)
    rw [← Recorded.map_receipts]
    exact List.mem_map_of_mem member
  obtain ⟨request, answers, dated⟩ := audited.traced.answers receipt.2 taken
  refine ⟨request, ?_, answers, audited.traced.delivered receipt member⟩
  rw [Packet.eq_of_response? answers]
  exact dated

/-- What was offered first is known from the response, and so is its round trip. -/
theorem roundTrips_eq : (Dated.mk pipe.requester log).roundTrips =
    pipe.requester.receipts.map roundTrip := by
  apply List.map_congr_left
  intro receipt member
  obtain ⟨request, found, -⟩ := audited.answered member
  simp only [found, Option.elim_some, roundTrip]

/-- The response came after the check of the request and the latency of memory. -/
theorem checked (few : config.slotsInUse ≤ 2 ^ 32) {receipt : Nat × Packet}
    (member : receipt ∈ pipe.requester.receipts) {request : Packet}
    (answers : request.response? = some receipt.2) {cycles : Nat}
    (policy : config.secureModule.holdCycles request.command.kind = some cycles) :
    receipt.2.createdAt + cycles * config.secureModule.clockPeriod +
      config.memory.accessLatency + 1 ≤ receipt.1 := by
  obtain ⟨tickets, vetted⟩ := audited.vetted few
  have received := vetted.received receipt member
  have same : receipt.2.createdAt = request.createdAt := by rw [Packet.eq_of_response? answers]
  rw [config.soonest_answer answers, BenchmarkConfig.soonest, SecureModuleConfig.checkTime, policy,
    Option.getD_some, ← same] at received
  exact received

/-- Once every response has come, every request of the workload was admitted. -/
theorem counted (ordered : pipe.Ordered) (finished : pipe.requester.peer.isFinished = true) :
    pipe.component.stats =
      AdmissionStats.among (generated log config.workload.numRequests) ∧
    pipe.component.stats.total = config.workload.numRequests := by
  have order := congrArg List.length ordered.order
  have issued := ordered.regular.issued
  have bounded := ordered.regular.bounded
  have answered := ordered.answered
  simp only [journey, List.length_map, List.length_append, List.length_range] at order
  rw [RequestGenerator.isFinished_iff, audited.creates.workload] at finished
  rw [audited.creates.workload] at bounded
  have created : pipe.requester.peer.created = config.workload.numRequests := by omega
  have held : pipe.requester.peer.held.toList = [] := List.eq_nil_of_length_eq_zero (by omega)
  have requests := audited.traced.order
  have dated := audited.traced.dated
  rw [held, List.append_nil] at requests dated
  rw [created] at requests
  refine ⟨?_, ?_⟩
  · rw [generated_eq requests dated]
    exact audited.traced.counted
  · rw [ordered.admitted]
    omega

end Audited

end Pipeline

namespace Simulation

/-- A run measures its round trips exactly. -/
structure MeasuresTrips (config : BenchmarkConfig)
    (sim : Simulation SecureModule (Dated RecordedRequester) RecordedMemory SecureEvent) :
    Prop where
  /-- A response carries the tick at which its request was offered first. -/
  answered : ∀ receipt ∈ sim.rig.requester.peer.receipts, ∃ offered request,
    firstOffer? sim.rig.requester.offers receipt.2.id = some (offered, request) ∧
      request.response? = some receipt.2 ∧ receipt.2.createdAt = offered ∧ offered ≤ receipt.1
  responses : sim.rig.requester.peer.peer.stats.responses =
    sim.rig.requester.peer.receipts.length
  total : sim.rig.requester.peer.peer.stats.totalRoundTrip = sim.rig.requester.roundTrips.sum
  longest : sim.rig.requester.peer.peer.stats.maxRoundTrip =
    sim.rig.requester.roundTrips.foldl max 0
  /-- In the end the module has counted every request of the workload by its command. -/
  completed : ∀ summary, sim.summary = .ok summary →
    sim.rig.component.stats =
      AdmissionStats.among (generated sim.rig.requester.offers config.workload.numRequests) ∧
    sim.rig.component.stats.total = config.workload.numRequests

/-- No request gets around its check: between its first offer and its response are the whole check
and the latency of memory. -/
def KeepsChecks (config : BenchmarkConfig)
    (sim : Simulation SecureModule (Dated RecordedRequester) RecordedMemory SecureEvent) : Prop :=
  ∀ receipt ∈ sim.rig.requester.peer.receipts, ∃ offered request cycles,
    firstOffer? sim.rig.requester.offers receipt.2.id = some (offered, request) ∧
    config.secureModule.holdCycles request.command.kind = some cycles ∧
    offered + (cycles * config.secureModule.clockPeriod + config.memory.accessLatency + 1) ≤
      receipt.1

section Stays

variable {config : BenchmarkConfig}
  {sim : Simulation SecureModule (Dated RecordedRequester) RecordedMemory SecureEvent}
  (stays : (sim.map Dated.peer id).Stays (Pipeline.Audited config) sim.rig.requester.offers)
include stays

theorem Stays.measuresTrips : sim.MeasuresTrips config := by
  obtain ⟨clock, edge, checks, slots, audited⟩ := stays.held
  have ordered := stays.ordered
  have trips := audited.roundTrips_eq
  refine ⟨?_, ?_, ?_, ?_, ?_⟩
  · intro receipt member
    obtain ⟨request, found, answers, order⟩ := audited.answered member
    exact ⟨_, request, found, answers, rfl, order⟩
  · exact ordered.answered.trans (Recorded.length_taken _)
  · exact audited.traced.measures.total.trans (congrArg List.sum trips.symm)
  · exact audited.traced.measures.longest.trans (congrArg (List.foldl max 0) trips.symm)
  · intro summary ended
    have finished : (sim.map Dated.peer id).rig.requester.peer.isFinished = true :=
      stays.isFinished ((summary_map Dated.requesterMap ResponseSource.Map.refl sim).trans ended)
    exact audited.counted { ordered with } finished

theorem Stays.keepsChecks (few : config.slotsInUse ≤ 2 ^ 32) : sim.KeepsChecks config := by
  obtain ⟨clock, edge, checks, slots, audited⟩ := stays.held
  intro receipt member
  obtain ⟨request, found, answers, -⟩ := audited.answered member
  obtain ⟨cycles, policy⟩ := config.secureModule.exists_holdCycles answers
  have late := audited.checked few member answers policy
  exact ⟨_, request, cycles, found, policy, by omega⟩

end Stays

/-- A queue of one place, so that requests are offered again and again before they are admitted. -/
def narrowQueue : BenchmarkConfig where
  secureModule := { requestCapacity := 1, clockPeriod := 3 }
  memory := { accessLatency := 5 }
  workload := { numRequests := 2 }

end Simulation

end GatedMemory
