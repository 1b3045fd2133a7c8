import GatedMemory.Proofs.Benchmark
import GatedMemory.Proofs.SecureModule.Course

/-!
A simulated secure module sends apart. Its driver and a retry of memory can both offer the oldest
request in one tick, but memory takes it from one of them only: the module is blocked exactly as
long as memory owes a retry, and memory owes none in a tick in which it took a request. A response
leaves at an edge, one at a time.
-/

set_option autoImplicit false

namespace GatedMemory

theorem pairwise_concat {β : Type} {apart : β → β → Prop} {items : List β} {item : β}
    (before : items.Pairwise apart) (later : ∀ earlier ∈ items, apart earlier item) :
    (items ++ [item]).Pairwise apart := by
  refine List.pairwise_append.2 ⟨before, List.pairwise_singleton _ _, ?_⟩
  intro earlier member other same
  rw [List.mem_singleton.1 same]
  exact later earlier member

namespace Pipeline

/-- The receipts of memory lie apart and before the tick `sending`, those of the requester a period
apart and a period before `receiving`. -/
structure Spacing (pipe : Pipeline) (period sending receiving : Nat) : Prop where
  configured : pipe.component.config.clockPeriod = period
  /-- The module waits for the retry that memory owes, and for no other. -/
  tied : pipe.component.gate.towardMemory.blocked = pipe.memory.peer.owesRetry
  requests : pipe.memory.receipts.Pairwise fun early late => early.1 < late.1
  sent : ∀ receipt ∈ pipe.memory.receipts, receipt.1 < sending
  exclusive : pipe.memory.peer.owesRetry = true →
    ∀ receipt ∈ pipe.memory.receipts, receipt.1 < pipe.now
  responses : pipe.requester.receipts.Pairwise fun early late => early.1 + period ≤ late.1
  received : ∀ receipt ∈ pipe.requester.receipts, receipt.1 + period ≤ receiving

namespace Spacing

variable {pipe next : Pipeline} {period sending receiving : Nat}

/-- One request is offered to memory, in a tick in which memory took none. -/
theorem forward (spacing : Spacing pipe period pipe.now receiving) (later : pipe.now < sending)
    {outcome : Gate × RecordedMemory}
    (forwards : SecureModule.Forwards pipe.component.gate pipe.memory pipe.now outcome) :
    Spacing (pipe.withMemory outcome) period sending receiving := by
  have past : ∀ receipt ∈ pipe.memory.receipts, receipt.1 < sending :=
    fun receipt member => Nat.lt_trans (spacing.sent receipt member) later
  cases forwards with
  | idle => exact { spacing with sent := past }
  | @taken head rest answer unblocked =>
    have settled : pipe.memory.peer.owesRetry = false := spacing.tied.symm.trans unblocked
    refine { spacing with requests := ?_, sent := ?_, exclusive := ?_ }
    · rw [withMemory, RecordedMemory.receipts_accepting]
      exact pairwise_concat spacing.requests spacing.sent
    · rw [withMemory, RecordedMemory.receipts_accepting]
      intro receipt member
      rcases List.mem_append.1 member with old | new
      · exact past receipt old
      · rw [List.mem_singleton.1 new]
        exact later
    · intro owed
      cases settled.symm.trans owed
  | @refused head rest =>
    have same : (pipe.memory.refusing head.packet pipe.now).receipts = pipe.memory.receipts :=
      RecordedMemory.receipts_refusing
    refine { spacing with tied := rfl, requests := ?_, sent := ?_, exclusive := ?_ }
    · rw [withMemory, same]
      exact spacing.requests
    · rw [withMemory, same]
      exact past
    · rw [withMemory, same]
      exact fun _ => spacing.sent

/-- One response is offered to the requester at an edge. -/
theorem deliver (spacing : Spacing pipe period sending pipe.now)
    {outcome : Gate × RecordedRequester}
    (delivers : SecureModule.Delivers pipe.component.gate pipe.requester pipe.now outcome) :
    Spacing (pipe.withRequester outcome) period sending (pipe.now + period) := by
  have past : ∀ receipt ∈ pipe.requester.receipts, receipt.1 + period ≤ pipe.now + period :=
    fun receipt member => Nat.le_trans (spacing.received receipt member) (Nat.le_add_right _ _)
  cases delivers with
  | idle => exact { spacing with received := past }
  | @taken head rest =>
    refine { spacing with responses := ?_, received := ?_ }
    · rw [withRequester, RecordedRequester.receipts_receiving]
      exact pairwise_concat spacing.responses spacing.received
    · rw [withRequester, RecordedRequester.receipts_receiving]
      intro receipt member
      rcases List.mem_append.1 member with old | new
      · exact past receipt old
      · rw [List.mem_singleton.1 new]

theorem settleRequestRetry (spacing : Spacing pipe period sending receiving) :
    Spacing (SecureModule.settleRequestRetry pipe) period sending receiving := by
  have same : pipe.requester.resuming.receipts = pipe.requester.receipts :=
    RecordedRequester.receipts_resuming
  apply SecureModule.settleRequestRetry_keeps (Spacing · period sending receiving) spacing
  refine { spacing with responses := ?_, received := ?_ }
  · rw [withRequester, same]
    exact spacing.responses
  · rw [withRequester, same]
    exact spacing.received

theorem settleResponseRetry (spacing : Spacing pipe period sending receiving) :
    Spacing (SecureModule.settleResponseRetry pipe) period sending receiving := by
  have same : pipe.memory.resuming.receipts = pipe.memory.receipts :=
    RecordedMemory.receipts_resuming
  apply SecureModule.settleResponseRetry_keeps (Spacing · period sending receiving) spacing
  refine { spacing with requests := ?_, sent := ?_, exclusive := ?_ }
  · rw [withMemory, same]
    exact spacing.requests
  · rw [withMemory, same]
    exact spacing.sent
  · rw [withMemory, same]
    exact spacing.exclusive

/-- The work at an edge sends one request and one response at most. -/
theorem edgeWork (spacing : Spacing pipe period pipe.now pipe.now) (positive : 0 < period)
    (plain : ∀ request ∈ pipe.component.gate.requests.items, request.packet.IsAccess) :
    Spacing (SecureModule.edgeWork pipe) period (pipe.now + period) (pipe.now + period) := by
  have fired : Spacing (SecureModule.edgeFired pipe) period pipe.now pipe.now := { spacing with }
  have sent := fired.forward (Nat.lt_add_of_pos_right positive)
    (SecureModule.sendRequest_forwards plain)
  rw [← SecureModule.drainRequest_eq] at sent
  have delivered := sent.deliver SecureModule.sendResponse_delivers
  rw [← SecureModule.drainResponse_eq] at delivered
  exact delivered.settleRequestRetry.settleResponseRetry

theorem serve (spacing : Spacing pipe period sending receiving) (serves : pipe.Serves next) :
    Spacing next period sending receiving := by
  cases serves <;> exact { spacing with }

/-- Memory can be offered a request again only if it owes a retry, and so took none in this tick. -/
theorem retry (spacing : Spacing pipe period sending receiving) (before : pipe.now < sending)
    (retries : pipe.Retries next) : Spacing next period sending receiving := by
  cases retries with
  | idle => exact spacing
  | @passed outcome owed room forwards =>
    have reopened :
        Spacing (pipe.withMemory (pipe.component.gate.reopened, pipe.memory.settling)) period
          pipe.now receiving :=
      { spacing with
        tied := rfl
        sent := spacing.exclusive owed
        exclusive := nofun }
    exact reopened.forward before forwards

theorem issue (spacing : Spacing pipe period sending receiving)
    (issues : pipe.Issues (none, next)) : Spacing next period sending receiving := by
  cases issues <;> exact { spacing with }

end Spacing

/-- The receipts lie apart throughout a run. -/
theorem spacing_lasting (period : Nat) :
    Lasting fun _ _ edge _ pipe => Spacing pipe period edge edge where
  wait spacing _ _ passed :=
    { spacing with
      exclusive := fun owed receipt member =>
        Nat.lt_of_lt_of_le (spacing.exclusive owed receipt member) passed }
  check spacing _ _ _ passed _ :=
    { spacing with
      exclusive := fun owed receipt member =>
        Nat.lt_of_lt_of_le (spacing.exclusive owed receipt member) passed }
  work {log clock checks pipe} spacing ordered now := by
    subst now
    have positive := ordered.period
    rw [spacing.configured] at positive ⊢
    exact spacing.edgeWork positive ordered.plain
  serve spacing _ _ _ serves := spacing.serve serves
  retry spacing _ now before retries := spacing.retry (now ▸ before) retries
  send spacing _ _ _ sends := spacing.issue sends.issues

end Pipeline

namespace Simulation

/-- Memory took at most one request in a tick, and none in this tick if it owes a retry, upon which
it is offered one again. The requester took at most one response in a clock period. -/
structure SendsApart (period : Nat)
    (sim : Simulation SecureModule RecordedRequester RecordedMemory SecureEvent) : Prop where
  requests : sim.rig.memory.receipts.Pairwise fun early late => early.1 < late.1
  exclusive : sim.rig.memory.peer.owesRetry = true →
    ∀ receipt ∈ sim.rig.memory.receipts, receipt.1 < sim.now
  responses : sim.rig.requester.receipts.Pairwise fun early late => early.1 + period ≤ late.1

theorem Stays.sendsApart {period : Nat} {log : List (Nat × Packet)}
    {sim : Simulation SecureModule RecordedRequester RecordedMemory SecureEvent}
    (stays : sim.Stays (fun _ _ edge _ pipe => Pipeline.Spacing pipe period edge edge) log) :
    sim.SendsApart period := by
  obtain ⟨_, _, _, _, spacing⟩ := stays.held
  exact ⟨spacing.requests, spacing.exclusive, spacing.responses⟩

/-- Whatever the configuration, the driver and the retries of memory never both get a request to
memory in one tick, and no two responses get to the requester within a clock period. -/
theorem sends_apart (config : BenchmarkConfig) (valid : config.validate = .ok ()) :
    ∃ module, SecureModule.build config.secureModule = .ok module ∧
      Always module (Recorded.blank (RequestGenerator.fresh config.workload))
        (Recorded.blank (MemoryModel.idle config.memory)) Recorded.peer Recorded.peer
        (SendsApart config.secureModule.clockPeriod) := by
  have positive := BenchmarkConfig.positive_of_validate valid
  have lasting := Pipeline.spacing_lasting config.secureModule.clockPeriod
  have spacing : Pipeline.Spacing (opening config.secureModule
      (Recorded.blank (RequestGenerator.fresh config.workload))
      (Recorded.blank (MemoryModel.idle config.memory))).rig
      config.secureModule.clockPeriod config.secureModule.clockPeriod
      config.secureModule.clockPeriod := {
    configured := rfl
    tied := rfl
    requests := List.Pairwise.nil
    sent := nofun
    exclusive := nofun
    responses := List.Pairwise.nil
    received := nofun }
  refine ⟨_, SecureModule.build_eq_ok (BenchmarkConfig.validate_eq_ok_iff.1 valid).1, ?_⟩
  exact (preservesLogged_of_lasting lasting).preserves.always Recorded.requesterMap
    Recorded.memoryMap (fun sim ⟨log, stays⟩ => stays.sendsApart)
    (start_gives_of_opening positive.period ⟨[], .going (opening_course positive) spacing⟩)

/-- A cycle of three ticks, and a memory that serves one request at once. -/
def slowDriver : BenchmarkConfig where
  secureModule := { clockPeriod := 3 }
  memory := { accessLatency := 5, maxOutstanding := 1 }
  workload := { numRequests := 3 }

/-- The first request goes to memory at an edge, the others in between, upon a retry. -/
theorem sends_apart_slow_driver :
    slowDriver.validate = .ok () ∧
    ∃ module, SecureModule.build slowDriver.secureModule = .ok module ∧
      Yields (start module (Recorded.blank (RequestGenerator.fresh slowDriver.workload))
        (Recorded.blank (MemoryModel.idle slowDriver.memory)) >>= fireMany 45) fun sim =>
        sim.SendsApart 3 ∧ sim.rig.memory.receipts.map Prod.fst = [12, 17, 22] ∧
          sim.rig.requester.receipts.map Prod.fst = [18, 24, 30] := by
  obtain ⟨module, built, always⟩ := sends_apart slowDriver rfl
  have after := always.after 45
  obtain rfl : SecureModule.fresh slowDriver.secureModule = module := Except.ok.inj built
  have ticks : (start (SecureModule.fresh slowDriver.secureModule)
      (Recorded.blank (RequestGenerator.fresh slowDriver.workload))
      (Recorded.blank (MemoryModel.idle slowDriver.memory)) >>= fireMany 45).map (fun sim =>
        (sim.rig.memory.receipts.map Prod.fst, sim.rig.requester.receipts.map Prod.fst)) =
      .ok ([12, 17, 22], [18, 24, 30]) := by
    decide +kernel
  have ran := (after.and_of_map ticks).yields_of_isOk (by decide +kernel)
  exact ⟨rfl, _, rfl, ran.mono fun _ ⟨⟨_, apart⟩, same⟩ => ⟨apart, Prod.mk.inj same⟩⟩

end Simulation

end GatedMemory
