import GatedMemory.Proofs.Monitored
import GatedMemory.Proofs.SecureModule.Order

set_option autoImplicit false

namespace GatedMemory

/-- How the requester and the module's flags towards it agree. -/
structure RequesterAgrees (requester : Monitored RequestGenerator) (flags : FlowFlags) : Prop where
  /-- The requester waits exactly if it is owed a retry. -/
  waits : requester.peer.awaitsRetry = flags.owesRetry
  /-- It was refused once for each retry, and while it waits it holds the packet that came back. -/
  refused : ∃ outstanding, Signal.Paired requester.requests outstanding ∧
    outstanding.isSome = requester.peer.awaitsRetry ∧
    ∀ packet ∈ outstanding, requester.peer.held = some packet
  /-- It takes every response. -/
  unblocked : flags.blocked = false
  quiet : requester.responses = []
  counted : requester.peer.stats.rejected =
    requester.peer.stats.retriesReceived + requester.peer.awaitsRetry.toNat

namespace RequesterAgrees

variable {requester : Monitored RequestGenerator} {flags : FlowFlags} {packet : Packet}
  {source : RequestGenerator} {now : Nat} (agrees : RequesterAgrees requester flags)
include agrees

theorem receive (packet : Packet) (now : Nat) :
    RequesterAgrees (ResponseSink.offer packet now requester).2 flags where
  waits := agrees.waits
  refused := agrees.refused
  unblocked := agrees.unblocked
  quiet := by
    rw [← agrees.quiet]
    exact List.append_nil _
  counted := agrees.counted

theorem retry (owed : flags.owesRetry = true) :
    RequesterAgrees (ResponseSink.requestRetry requester) { flags with owesRetry := false } := by
  have awaits : requester.peer.awaitsRetry = true := agrees.waits.trans owed
  obtain ⟨outstanding, paired, due, -⟩ := agrees.refused
  obtain ⟨packet, rfl⟩ := Option.isSome_iff_exists.1 (due.trans awaits)
  have counted := agrees.counted
  rw [awaits] at counted
  exact {
    waits := rfl
    refused := ⟨none, .retry paired, rfl, nofun⟩
    unblocked := agrees.unblocked
    quiet := agrees.quiet
    counted := counted }

/-- A requester that offers a packet has had its retry for the last refusal. -/
theorem settled (offers : requester.peer.Offers now packet source) :
    Signal.Paired requester.requests none := by
  obtain ⟨outstanding, paired, due, -⟩ := agrees.refused
  rw [offers.free, Option.isSome_eq_false_iff, Option.isNone_iff_eq_none] at due
  exact due ▸ paired

theorem issue (offers : requester.peer.Offers now packet source) :
    RequesterAgrees { requester with peer := source.accepted } flags := by
  obtain ⟨-, free, stats, -⟩ := offers.after
  have counted := agrees.counted
  exact {
    waits := (free.trans offers.free.symm).trans agrees.waits
    refused := ⟨none, agrees.settled offers, free.symm, nofun⟩
    unblocked := agrees.unblocked
    quiet := agrees.quiet
    counted := by
      simp only [RequestGenerator.accepted, stats, free]
      rw [offers.free] at counted
      exact counted }

theorem refuse (offers : requester.peer.Offers now packet source) :
    RequesterAgrees (requester.noteRequests (source.rejected packet) [.refused packet])
      { flags with owesRetry := true } := by
  obtain ⟨-, -, stats, -⟩ := offers.after
  have counted := agrees.counted
  rw [offers.free] at counted
  exact {
    waits := rfl
    refused := ⟨some packet, .refused (agrees.settled offers) packet, rfl, by
      rintro _ ⟨⟩
      rfl⟩
    unblocked := agrees.unblocked
    quiet := agrees.quiet
    counted := by
      simp only [Monitored.noteRequests, RequestGenerator.rejected, stats]
      exact congrArg Nat.succ counted }

end RequesterAgrees

/-- How memory and the module's flags towards it agree. -/
structure MemoryAgrees (memory : Monitored MemoryModel) (flags : FlowFlags) : Prop where
  /-- The module waits exactly if memory owes it a retry. -/
  blocked : flags.blocked = memory.peer.owesRetry
  /-- Memory refused one request for each retry. -/
  requests : Signal.Tell memory.requests memory.peer.owesRetry
  /-- Memory waits exactly if the module owes it a retry. -/
  waits : memory.peer.responseBlocked = flags.owesRetry
  /-- The module refused one response for each retry. -/
  responses : Signal.Tell memory.responses memory.peer.responseBlocked

namespace MemoryModel

variable {memory : MemoryModel}

theorem offer_of_room (room : memory.hasRoom = true) (packet : Packet) (now : Nat) :
    memory.offer packet now = (.accepted,
      { memory with
        accesses := memory.accesses + 1
        serving := memory.serving ++
          packet.response?.toList.map (now + memory.config.accessLatency, ·) }) := by
  simp only [offer, room, ↓reduceIte]

theorem offer_of_full (full : memory.hasRoom = false) (packet : Packet) (now : Nat) :
    memory.offer packet now = (.rejected packet,
      { memory with owesRetry := true, rejections := memory.rejections + 1 }) := by
  simp only [offer, full, Bool.false_eq_true, ↓reduceIte]

/-- Taking a response out of service leaves the retries alone, and needs memory to be unblocked. -/
theorem takeReady_flags (memory : MemoryModel) (now : Nat) :
    (memory.takeReady now).2.owesRetry = memory.owesRetry ∧
      (memory.takeReady now).2.responseBlocked = memory.responseBlocked ∧
      ((memory.takeReady now).1.isSome = true → memory.responseBlocked = false) := by
  unfold takeReady
  cases blocked : memory.responseBlocked with
  | true =>
    rw [if_pos rfl]
    exact ⟨rfl, blocked, nofun⟩
  | false =>
    rw [if_neg Bool.false_ne_true]
    split
    · exact ⟨rfl, blocked, fun _ => rfl⟩
    · split
      · exact ⟨rfl, rfl, fun _ => rfl⟩
      · exact ⟨rfl, blocked, fun _ => rfl⟩

end MemoryModel

namespace MemoryAgrees

variable {memory memory' : Monitored MemoryModel} {flags : FlowFlags} {packet back : Packet}
  {now : Nat} (agrees : MemoryAgrees memory flags)
include agrees

theorem accept (offer : RequestSink.offer packet now memory = (.accepted, memory')) :
    MemoryAgrees memory' flags := by
  cases room : memory.peer.hasRoom with
  | true =>
    simp only [RequestSink.offer, MemoryModel.offer_of_room room, Prod.mk.injEq] at offer
    rw [← offer.2]
    refine { agrees with requests := ?_ }
    rw [Monitored.noteRequests, Delivery.signals, Delivery.returned?, Option.toList_none,
      List.map_nil, List.append_nil]
    exact agrees.requests
  | false =>
    simp only [RequestSink.offer, MemoryModel.offer_of_full room, Prod.mk.injEq] at offer
    cases offer.1

theorem refuse (unblocked : flags.blocked = false)
    (offer : RequestSink.offer packet now memory = (.rejected back, memory')) :
    MemoryAgrees memory' { flags with blocked := true } := by
  have requests := agrees.requests
  rw [← agrees.blocked, unblocked] at requests
  cases room : memory.peer.hasRoom with
  | true =>
    simp only [RequestSink.offer, MemoryModel.offer_of_room room, Prod.mk.injEq] at offer
    cases offer.1
  | false =>
    simp only [RequestSink.offer, MemoryModel.offer_of_full room, Prod.mk.injEq] at offer
    rw [← offer.2]
    exact { agrees with blocked := rfl, requests := requests.refused packet }

theorem settle (owed : memory.peer.owesRetry = true) :
    MemoryAgrees (memory.noteRequests { memory.peer with owesRetry := false } [.retry])
      { flags with blocked := false } := by
  have requests := agrees.requests
  rw [owed] at requests
  exact { agrees with blocked := rfl, requests := requests.retry }

theorem retry (owed : flags.owesRetry = true) :
    MemoryAgrees (RequestSink.responseRetry memory) { flags with owesRetry := false } := by
  have responses := agrees.responses
  rw [agrees.waits, owed] at responses
  exact { agrees with waits := rfl, responses := responses.retry }

theorem pass (unblocked : memory.peer.responseBlocked = false) :
    MemoryAgrees memory { flags with owesRetry := false } :=
  { agrees with waits := unblocked }

theorem putBack (unblocked : memory.peer.responseBlocked = false) (packet : Packet) (now : Nat) :
    MemoryAgrees (ResponseSource.putBack packet now memory) { flags with owesRetry := true } := by
  have responses := agrees.responses
  rw [unblocked] at responses
  exact { agrees with waits := rfl, responses := responses.refused packet }

theorem take (now : Nat) :
    MemoryAgrees (ResponseSource.takeReady now memory).2 flags ∧
      ((ResponseSource.takeReady now memory).1.isSome = true →
        (ResponseSource.takeReady now memory).2.peer.responseBlocked = false) := by
  obtain ⟨owes, blocked, able⟩ := memory.peer.takeReady_flags now
  exact ⟨{
    blocked := agrees.blocked.trans owes.symm
    requests := owes.symm ▸ agrees.requests
    waits := blocked.trans agrees.waits
    responses := blocked.symm ▸ agrees.responses }, fun taken => blocked.trans (able taken)⟩

end MemoryAgrees

/-- A simulated secure module, between a requester and a memory that keep track of the signals. -/
abbrev MonitoredPipeline :=
  Rig SecureModule (Monitored RequestGenerator) (Monitored MemoryModel)
    (SimulationEvent SecureEvent)

namespace MonitoredPipeline

/-- On every hop, refusals and retries match. -/
structure Handshakes (pipe : MonitoredPipeline) : Prop where
  requester : RequesterAgrees pipe.requester pipe.component.gate.towardRequester
  memory : MemoryAgrees pipe.memory pipe.component.gate.towardMemory

/-- What keeps the refusals and the retries matched. -/
structure Alert (pipe : MonitoredPipeline) : Prop extends Handshakes pipe where
  regular : pipe.requester.peer.Regular
  period : 0 < pipe.component.config.clockPeriod

namespace Alert

variable {pipe : MonitoredPipeline} (alert : pipe.Alert)
include alert

theorem drainRequest : Alert (SecureModule.drainRequest pipe) := by
  have outcomes := pipe.component.gate.sendRequest_cases pipe.memory pipe.now
  unfold SecureModule.drainRequest
  generalize pipe.component.gate.sendRequest pipe.memory pipe.now = outcome at outcomes
  cases outcomes with
  | idle => exact alert
  | taken _ _ _ offer => exact { alert with memory := alert.memory.accept offer }
  | refused unblocked _ _ offer =>
    exact { alert with memory := alert.memory.refuse unblocked offer }

theorem drainResponse : Alert (SecureModule.drainResponse pipe) := by
  have outcomes := pipe.component.gate.sendResponse_cases pipe.requester pipe.now
  unfold SecureModule.drainResponse
  generalize pipe.component.gate.sendResponse pipe.requester pipe.now = outcome at outcomes
  cases outcomes with
  | idle => exact alert
  | @taken head rest requester' _ _ offer =>
    have received := alert.requester.receive head pipe.now
    rw [offer] at received
    obtain ⟨-, rfl⟩ := Prod.mk.inj offer
    exact { alert with requester := received, regular := { alert.regular with } }
  | refused _ _ offer => cases (Prod.mk.inj offer).1

theorem settleRequestRetry : Alert (SecureModule.settleRequestRetry pipe) := by
  cases owed : pipe.component.gate.towardRequester.owesRetry with
  | true =>
    simp only [SecureModule.settleRequestRetry, Gate.takeRequestRetry, owed, ↓reduceIte]
    exact { alert with
      requester := alert.requester.retry owed, regular := { alert.regular with } }
  | false =>
    have same : pipe.component.gate.towardRequester =
        { pipe.component.gate.towardRequester with owesRetry := false } := by rw [← owed]
    simp only [SecureModule.settleRequestRetry, Gate.takeRequestRetry, owed, Bool.false_eq_true,
      ↓reduceIte]
    exact { alert with requester := same ▸ alert.requester }

theorem settleResponseRetry : Alert (SecureModule.settleResponseRetry pipe) := by
  cases owed : pipe.component.gate.towardMemory.owesRetry with
  | true =>
    simp only [SecureModule.settleResponseRetry, Gate.takeResponseRetry, owed, ↓reduceIte]
    exact { alert with memory := alert.memory.retry owed }
  | false =>
    have same : pipe.component.gate.towardMemory =
        { pipe.component.gate.towardMemory with owesRetry := false } := by rw [← owed]
    simp only [SecureModule.settleResponseRetry, Gate.takeResponseRetry, owed, Bool.false_eq_true,
      ↓reduceIte]
    exact { alert with memory := same ▸ alert.memory }

theorem edgeWork : Alert (SecureModule.edgeWork pipe) := by
  have fired : Alert (SecureModule.edgeFired pipe) := { alert with }
  exact fired.drainRequest.drainResponse.settleRequestRetry.settleResponseRetry

theorem scheduleEdge : Gives Overflow (SecureModule.scheduleEdge pipe) Alert := by
  cases free : pipe.component.driver.canSchedule with
  | true =>
    apply (SecureModule.scheduleEdge_of_free alert.period free).mono
    rintro _ rfl
    exact { alert with }
  | false =>
    apply (SecureModule.scheduleEdge_of_busy alert.period free).mono
    rintro _ rfl
    exact alert

theorem serve : Gives Overflow (Simulation.serveResponse pipe) Alert := by
  obtain ⟨taken, able⟩ := alert.memory.take pipe.now
  unfold Simulation.serveResponse
  generalize ResponseSource.takeReady pipe.now pipe.memory = outcome at taken able
  obtain ⟨_ | packet, memory⟩ := outcome
  · exact .ok { alert with memory := taken }
  · have unblocked := able rfl
    by_cases room :
        pipe.component.gate.responses.items.length < pipe.component.gate.responses.capacity
    · simp only [Intermediary.response, SecureModule.response, Gate.admitResponse_of_lt room]
      exact .ok { alert with memory := taken.pass unblocked }
    · have full := Nat.not_lt.1 room
      simp only [Intermediary.response, SecureModule.response, Gate.admitResponse_of_le full]
      exact .ok { alert with memory := taken.putBack unblocked packet _ }

/-- Memory has room when it asks for requests again, so the module is unblocked at once. -/
theorem retry : Alert (Simulation.passRetry pipe) := by
  unfold Simulation.passRetry
  simp only [ResponseSource.settleRetry, MemoryModel.settleRetry]
  by_cases settles : (pipe.memory.peer.owesRetry && pipe.memory.peer.hasRoom) = true
  · obtain ⟨owed, -⟩ := Bool.and_eq_true_iff.1 settles
    simp only [settles, ↓reduceIte]
    have reopened : Alert { pipe with
        component := { pipe.component with gate := pipe.component.gate.reopened }
        memory :=
          pipe.memory.noteRequests { pipe.memory.peer with owesRetry := false } [.retry] } :=
      { alert with memory := alert.memory.settle owed }
    exact reopened.drainRequest
  · have silent : pipe.memory.noteRequests pipe.memory.peer [] = pipe.memory := by
      rw [Monitored.noteRequests, List.append_nil]
    simp only [settles, Bool.false_eq_true, ↓reduceIte, silent]
    exact alert

theorem issue : Gives Overflow (Simulation.issueRequest pipe) fun result =>
    result.1 = none ∧ Alert result.2 := by
  unfold Simulation.issueRequest
  have noted : Gives Overflow (TrafficSource.next pipe.now pipe.requester) fun result =>
      ∃ offered source, result = (offered, { pipe.requester with peer := source }) ∧
        pipe.requester.peer.Nexts pipe.now (offered, source) := by
    have next := RequestGenerator.next_cases alert.regular.line pipe.now
    apply (next.weaken Allows.overflow).bind
    rintro ⟨offered, source⟩ cases
    exact .ok ⟨offered, source, rfl, cases⟩
  apply noted.bind
  rintro _ ⟨offered, source, rfl, cases⟩
  cases cases with
  | idle => exact .ok ⟨rfl, alert⟩
  | @offers packet source offers =>
    obtain ⟨cycles, policy⟩ : ∃ cycles,
        pipe.component.config.holdCycles packet.command.kind = some cycles := by
      rcases (offers.access alert.regular).kind with kind | kind <;> exact ⟨_, by rw [kind]; rfl⟩
    by_cases room :
        pipe.component.gate.requests.items.length < pipe.component.gate.requests.capacity
    · have answer := SecureModule.request_of_lt
        { pipe with requester := { pipe.requester with peer := source } } policy alert.period room
      apply answer.bind
      rintro _ rfl
      exact .ok ⟨rfl, { alert with
        requester := alert.requester.issue offers
        regular := offers.accepted_regular alert.regular }⟩
    · have full := Nat.not_lt.1 room
      have answer := SecureModule.request_of_le
        { pipe with requester := { pipe.requester with peer := source } } policy alert.period full
      apply answer.bind
      rintro _ rfl
      exact .ok ⟨rfl, { alert with
        requester := alert.requester.refuse offers
        regular := offers.rejected_regular alert.regular }⟩

end Alert

end MonitoredPipeline

namespace Simulation

variable {sim : Simulation SecureModule (Monitored RequestGenerator) (Monitored MemoryModel)
  SecureEvent}

theorem finishOrContinue_alert (alert : MonitoredPipeline.Alert sim.rig) :
    Gives Overflow sim.finishOrContinue fun next => MonitoredPipeline.Alert next.rig :=
  finishOrContinue_keeps MonitoredPipeline.Alert { alert with } fun _ => { alert with }

/-- Whichever event fires, refusals and retries still match. -/
theorem preserves_alert : Preserves Overflow
    (fun sim : Simulation SecureModule (Monitored RequestGenerator) (Monitored MemoryModel)
      SecureEvent => MonitoredPipeline.Alert sim.rig) := by
  intro sim entry rest alert pending
  have fired : MonitoredPipeline.Alert
      { sim.rig with events := sim.rig.events.after entry rest } := { alert with }
  apply handle_gives
  cases entry.payload with
  | component event =>
    cases event with
    | edge =>
      rw [react_edge]
      exact fired.edgeWork.scheduleEdge.map fun rig kept => ⟨rfl, kept⟩
    | checkOver slot => exact .ok ⟨rfl, { fired with }⟩
  | clock =>
    apply tick_gives
    apply (fired.serve.bind fun served kept => kept.retry.issue).mono
    rintro ⟨_, issued⟩ ⟨rfl, alert⟩
    exact ⟨rfl, (finishOrContinue_alert alert).mono fun next kept => ⟨rfl, kept⟩⟩

theorem assemble_alert {config : SecureModuleConfig} {workload : Workload}
    (period : 0 < config.clockPeriod) (line : 0 < workload.lineSize) (memory : MemoryConfig) :
    MonitoredPipeline.Alert (.assemble (SecureModule.fresh config)
      (.quiet (RequestGenerator.fresh workload)) (.quiet (MemoryModel.idle memory))) where
  requester := {
    waits := rfl
    refused := ⟨none, .quiet, rfl, nofun⟩
    unblocked := rfl
    quiet := rfl
    counted := rfl }
  memory := {
    blocked := rfl
    requests := ⟨none, .quiet, rfl⟩
    waits := rfl
    responses := ⟨none, .quiet, rfl⟩ }
  regular := RequestGenerator.fresh_regular line
  period := period

/-- Whatever the configuration, after any number of events refusals and retries match on every hop:
whoever was refused waits exactly as long as it is owed a retry, and nobody is refused twice before
the retry for the first refusal. -/
theorem handshakes_match (config : SecureModuleConfig) (memory : MemoryConfig)
    (workload : Workload) (valid : config.validate = .ok ())
    (workable : workload.validate = .ok ()) (count : Nat) :
    ∃ module, SecureModule.build config = .ok module ∧
    Gives Overflow (start module (Monitored.quiet (RequestGenerator.fresh workload))
        (Monitored.quiet (MemoryModel.idle memory)) >>= fireMany count) fun sim =>
      start module (RequestGenerator.fresh workload) (MemoryModel.idle memory) >>=
        fireMany count = .ok (sim.map Monitored.peer Monitored.peer) ∧
      MonitoredPipeline.Handshakes sim.rig := by
  have period := (SecureModuleConfig.validate_eq_ok_iff.1 valid).2.2
  refine ⟨_, SecureModule.build_eq_ok valid, ?_⟩
  have assembled := assemble_alert period (Workload.pos_of_validate workable).1 memory
  have opens : Gives Overflow (start (SecureModule.fresh config)
      (Monitored.quiet (RequestGenerator.fresh workload))
      (Monitored.quiet (MemoryModel.idle memory)))
      fun sim => MonitoredPipeline.Alert sim.rig :=
    start_gives_of_opening period { assembled with }
  have always := preserves_alert.always Monitored.requesterMap Monitored.memoryMap
    (fun _ => MonitoredPipeline.Alert.toHandshakes) opens
  exact always.after count

/-- Queues of one place each, in front of a memory that serves one request at a time. -/
theorem handshakes_match_single_places :
    SecureModuleConfig.validate { requestCapacity := 1, responseCapacity := 1, clockPeriod := 3 } =
      .ok () ∧
    Workload.validate { numRequests := 20 } = .ok () ∧
    ∃ module, SecureModule.build { requestCapacity := 1, responseCapacity := 1, clockPeriod := 3 } =
        .ok module ∧
      Yields (start module (Monitored.quiet (RequestGenerator.fresh { numRequests := 20 }))
          (Monitored.quiet (MemoryModel.idle { maxOutstanding := 1 })) >>= fireMany 100) fun sim =>
        start module (RequestGenerator.fresh { numRequests := 20 })
            (MemoryModel.idle { maxOutstanding := 1 }) >>= fireMany 100 =
          .ok (sim.map Monitored.peer Monitored.peer) ∧
        MonitoredPipeline.Handshakes sim.rig := by
  obtain ⟨module, built, matched⟩ := handshakes_match
    { requestCapacity := 1, responseCapacity := 1, clockPeriod := 3 } { maxOutstanding := 1 }
    { numRequests := 20 } rfl rfl 100
  cases built
  exact ⟨rfl, rfl, _, rfl, matched.yields_of_isOk (by decide +kernel)⟩

end Simulation

end GatedMemory
