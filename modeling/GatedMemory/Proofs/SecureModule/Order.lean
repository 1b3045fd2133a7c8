import GatedMemory.Proofs.SecureModule.Actions

set_option autoImplicit false

namespace GatedMemory

namespace Pipeline

/-- The numbers of all requests and responses on their way, oldest first, after those of the
responses that the requester has taken. -/
def journey (pipe : Pipeline) : List Nat :=
  (pipe.requester.taken ++ pipe.component.gate.responses.items ++
    pipe.memory.peer.serving.map Prod.snd ++
    pipe.component.gate.requests.items.map QueuedRequest.packet ++
    pipe.requester.peer.held.toList).map Packet.id

/-- Every request that was created is somewhere on its way, or was answered, in order. -/
structure Ordered (pipe : Pipeline) : Prop where
  order : pipe.journey = List.range pipe.requester.peer.created
  plain : ∀ request ∈ pipe.component.gate.requests.items, request.packet.IsAccess
  regular : pipe.requester.peer.Regular
  admitted : pipe.component.stats.total = pipe.requester.peer.stats.issued
  answered : pipe.requester.peer.stats.responses = pipe.requester.taken.length
  period : 0 < pipe.component.config.clockPeriod

namespace Ordered

variable {pipe : Pipeline} (ordered : pipe.Ordered)
include ordered

theorem forward {outcome : Gate × RecordedMemory}
    (forwards : SecureModule.Forwards pipe.component.gate pipe.memory pipe.now outcome) :
    (pipe.withMemory outcome).Ordered := by
  cases forwards with
  | idle => exact { ordered with }
  | @taken head rest answer _ items _ _ answered =>
    have plain := ordered.plain
    have order := ordered.order
    refine { ordered with order := ?_, plain := ?_ }
    · have same : answer.id = head.packet.id := by rw [Packet.eq_of_response? answered]
      simp only [journey, items, List.map_append, List.map_cons, List.append_assoc] at order
      simp only [journey, withMemory, Gate.dropHead, RecordedMemory.accepting, Recorded.note,
        List.map_append, List.map_cons, List.map_nil, List.append_assoc, same]
      exact order
    · refine fun request member => plain request ?_
      rw [items]
      exact List.mem_cons_of_mem _ member
  | @refused head rest _ items _ _ =>
    have plain := ordered.plain
    have order := ordered.order
    refine { ordered with order := ?_, plain := ?_ }
    · simp only [journey, items] at order
      exact order
    · refine fun request member => plain request ?_
      rw [items]
      exact member

theorem deliver {outcome : Gate × RecordedRequester}
    (delivers : SecureModule.Delivers pipe.component.gate pipe.requester pipe.now outcome) :
    (pipe.withRequester outcome).Ordered := by
  cases delivers with
  | idle => exact { ordered with }
  | @taken head rest _ items =>
    have order := ordered.order
    refine { ordered with order := ?_, regular := { ordered.regular with }, answered := ?_ }
    · rw [journey, items] at order
      simp only [journey, withRequester, RecordedRequester.taken_receiving, List.append_assoc,
        List.singleton_append] at order ⊢
      exact order
    · have answered := ordered.answered
      simp only [withRequester, RecordedRequester.taken_receiving, List.length_append,
        List.length_singleton]
      exact congrArg Nat.succ answered

theorem settleRequestRetry : Ordered (SecureModule.settleRequestRetry pipe) := by
  have taken : pipe.requester.resuming.taken = pipe.requester.taken :=
    RecordedRequester.taken_resuming
  apply SecureModule.settleRequestRetry_keeps Ordered ordered
  refine { ordered with order := ?_, regular := { ordered.regular with }, answered := ?_ }
  · rw [journey, withRequester, taken]
    exact ordered.order
  · rw [withRequester, taken]
    exact ordered.answered

theorem settleResponseRetry : Ordered (SecureModule.settleResponseRetry pipe) := by
  apply SecureModule.settleResponseRetry_keeps Ordered ordered
  exact { ordered with }

theorem edgeWork : Ordered (SecureModule.edgeWork pipe) := by
  have fired : Ordered (SecureModule.edgeFired pipe) := { ordered with }
  have sent := fired.forward (SecureModule.sendRequest_forwards fired.plain)
  rw [← SecureModule.drainRequest_eq] at sent
  have delivered := sent.deliver SecureModule.sendResponse_delivers
  rw [← SecureModule.drainResponse_eq] at delivered
  exact delivered.settleRequestRetry.settleResponseRetry

theorem serve {next : Pipeline} (serves : pipe.Serves next) : next.Ordered := by
  cases serves with
  | idle => exact ordered
  | @admitted due answer rest _ serving =>
    have order := ordered.order
    refine { ordered with order := ?_ }
    rw [journey, serving] at order
    simp only [journey, withMemory, Gate.withResponse, RecordedMemory.withServing, List.map_cons,
      List.append_assoc, List.singleton_append] at order ⊢
    exact order
  | @refused due answer rest _ serving =>
    have order := ordered.order
    refine { ordered with order := ?_ }
    rw [journey, serving] at order
    exact order

theorem retry {next : Pipeline} (retries : pipe.Retries next) : next.Ordered := by
  cases retries with
  | idle => exact ordered
  | @passed outcome _ _ forwards =>
    have reopened :
        (pipe.withMemory (pipe.component.gate.reopened, pipe.memory.settling)).Ordered :=
      { ordered with }
    exact reopened.forward forwards

theorem issue {result : Option RunError × Pipeline} (issues : pipe.Issues result) :
    result.1 = none ∧ result.2.Ordered := by
  cases issues with
  | idle => exact ⟨rfl, ordered⟩
  | @admitted packet source cycles offers policy =>
    obtain ⟨held, -, stats, -⟩ := offers.after
    have access := offers.access ordered.regular
    have order := ordered.order
    rw [journey, List.map_append] at order
    have next := offers.order order
    refine ⟨rfl, ?_, ?_, offers.accepted_regular ordered.regular, ?_, ?_, ordered.period⟩
    · refine Eq.trans ?_ next
      simp only [journey, admitting, SecureModule.admitting, Gate.withRequest,
        RequestGenerator.accepted, Recorded.taken, held, Option.toList_none, List.map_append,
        List.map_cons, List.map_nil, List.append_nil, List.append_assoc]
    · intro request member
      rcases List.mem_append.1 member with old | new
      · exact ordered.plain request old
      · rw [List.mem_singleton.1 new]
        exact access
    · have counted : (pipe.component.stats.record packet.command.kind).total =
          pipe.component.stats.total + 1 := by
        rcases access.kind with kind | kind
        · simp only [kind, AdmissionStats.record, AdmissionStats.total]
          omega
        · simp only [kind, AdmissionStats.record, AdmissionStats.total]
          omega
      simp only [admitting, SecureModule.admitting, RequestGenerator.accepted, counted, stats,
        ordered.admitted]
    · simp only [admitting, RequestGenerator.accepted, stats, Recorded.taken]
      exact ordered.answered
  | @refused packet source offers =>
    obtain ⟨-, -, stats, -⟩ := offers.after
    have order := ordered.order
    rw [journey, List.map_append] at order
    have next := offers.order order
    refine ⟨rfl, ?_, ordered.plain, offers.rejected_regular ordered.regular, ?_, ?_,
      ordered.period⟩
    · refine Eq.trans ?_ next
      rw [journey, List.map_append]
      rfl
    · simp only [turningAway, RequestGenerator.rejected, stats]
      exact ordered.admitted
    · simp only [turningAway, RequestGenerator.rejected, stats, Recorded.taken]
      exact ordered.answered

theorem scheduleEdge : Gives Overflow (SecureModule.scheduleEdge pipe) Ordered := by
  cases free : pipe.component.driver.canSchedule with
  | true =>
    apply (SecureModule.scheduleEdge_of_free ordered.period free).mono
    rintro _ rfl
    exact { ordered with }
  | false =>
    apply (SecureModule.scheduleEdge_of_busy ordered.period free).mono
    rintro _ rfl
    exact ordered

end Ordered

end Pipeline

namespace Simulation

variable {sim : Simulation SecureModule RecordedRequester RecordedMemory SecureEvent}

/-- At an edge the driver works, and is scheduled for the next one. -/
theorem react_edge {ρ μ : Type} [TrafficSource ρ] [ResponseSource μ]
    (sim : Simulation SecureModule ρ μ SecureEvent) : react (.component .edge) sim =
      (SecureModule.scheduleEdge (SecureModule.edgeWork sim.rig)).map
        fun rig => (none, { sim with rig }) := by
  simp only [react, Intermediary.handle, SecureModule.handle, SecureModule.onEdge_eq]
  cases SecureModule.scheduleEdge (SecureModule.edgeWork sim.rig) <;> rfl

/-- A tick of the clock gives memory, the retry and the requester their turns, one after the other,
and the requester offers what comes next. -/
theorem turns_sends {pipe : Pipeline} (ordered : pipe.Ordered) :
    Gives Overflow (turns pipe) fun result => result.1 = none ∧
      ∃ (served : Pipeline) (offered : Option Packet) (source : RecordedRequester)
        (opened : List (Nat × SlotId)),
        serveResponse pipe = .ok served ∧ pipe.Serves served ∧ served.Retries (passRetry served) ∧
        TrafficSource.next (passRetry served).now (passRetry served).requester =
          .ok (offered, source) ∧
        Pipeline.Sends (passRetry served) offered opened result.2 := by
  apply (Pipeline.serveResponse_serves pipe).and_eq.bind
  rintro served ⟨serve, serves⟩
  have kept := ordered.serve serves
  have retries := Pipeline.passRetry_retries kept.plain
  have again := kept.retry retries
  apply (Pipeline.issueRequest_sends again.regular again.period .overflow
    fun _ _ _ _ _ => .overflow).mono
  rintro result ⟨none, offered, source, opened, next, sends⟩
  exact ⟨none, served, offered, source, opened, serve, serves, retries, next, sends⟩

theorem turns_issues {pipe : Pipeline} (ordered : pipe.Ordered) :
    Gives Overflow (turns pipe) fun result => result.1 = none ∧
      ∃ served retried : Pipeline,
        pipe.Serves served ∧ served.Retries retried ∧ retried.Issues (none, result.2) := by
  apply (turns_sends ordered).mono
  rintro result ⟨none, served, _, _, _, -, serves, retries, -, sends⟩
  exact ⟨none, served, _, serves, retries, sends.issues⟩

theorem finishOrContinue_ordered (ordered : Pipeline.Ordered sim.rig) :
    Gives Overflow sim.finishOrContinue fun next => Pipeline.Ordered next.rig :=
  finishOrContinue_keeps Pipeline.Ordered { ordered with } fun _ => { ordered with }

/-- Whichever event fires, the order is kept. -/
theorem preserves_ordered : Preserves Overflow
    (fun sim : Simulation SecureModule RecordedRequester RecordedMemory SecureEvent =>
      Pipeline.Ordered sim.rig) := by
  intro sim entry rest ordered pending
  have fired : Pipeline.Ordered { sim.rig with events := sim.rig.events.after entry rest } :=
    { ordered with }
  apply handle_gives
  cases entry.payload with
  | component event =>
    cases event with
    | edge =>
      rw [react_edge]
      exact fired.edgeWork.scheduleEdge.map fun rig kept => ⟨rfl, kept⟩
    | checkOver slot =>
      exact .ok ⟨rfl, { fired with }⟩
  | clock =>
    apply tick_gives
    apply (turns_issues fired).mono
    rintro ⟨_, issued⟩ ⟨rfl, served, retried, serves, retries, issues⟩
    have kept := (((fired.serve serves).retry retries).issue issues).2
    exact ⟨rfl, (finishOrContinue_ordered kept).mono fun next kept => ⟨rfl, kept⟩⟩

theorem assemble_ordered {config : SecureModuleConfig} {workload : Workload}
    (period : 0 < config.clockPeriod) (line : 0 < workload.lineSize) (memory : MemoryConfig) :
    Pipeline.Ordered (.assemble (SecureModule.fresh config)
      (Recorded.blank (RequestGenerator.fresh workload))
      (Recorded.blank (MemoryModel.idle memory))) where
  order := rfl
  plain := nofun
  regular := RequestGenerator.fresh_regular line
  admitted := rfl
  answered := rfl
  period := period

/-- Whatever the configuration, after any number of events the requests created so far are exactly
those that were answered and those on their way, in order, and the module has counted each one that
was issued. -/
theorem journey_eq_range (config : SecureModuleConfig) (memory : MemoryConfig)
    (workload : Workload) (valid : config.validate = .ok ())
    (workable : workload.validate = .ok ()) (count : Nat) :
    ∃ module, SecureModule.build config = .ok module ∧
    Gives Overflow (start module (Recorded.blank (RequestGenerator.fresh workload))
        (Recorded.blank (MemoryModel.idle memory)) >>= fireMany count) fun sim =>
      start module (RequestGenerator.fresh workload) (MemoryModel.idle memory) >>=
        fireMany count = .ok (sim.map Recorded.peer Recorded.peer) ∧
      Pipeline.journey sim.rig = List.range sim.rig.requester.peer.created ∧
      sim.rig.component.stats.total = sim.rig.requester.peer.stats.issued := by
  have period := (SecureModuleConfig.validate_eq_ok_iff.1 valid).2.2
  refine ⟨_, SecureModule.build_eq_ok valid, ?_⟩
  have assembled := assemble_ordered period (Workload.pos_of_validate workable).1 memory
  have opens : Gives Overflow (start (SecureModule.fresh config)
      (Recorded.blank (RequestGenerator.fresh workload)) (Recorded.blank (MemoryModel.idle memory)))
      fun sim => Pipeline.Ordered sim.rig :=
    start_gives_of_opening period { assembled with }
  have always := preserves_ordered.always Recorded.requesterMap Recorded.memoryMap
    (fun _ => id) opens
  apply (always.after count).mono
  rintro sim ⟨plain, ordered⟩
  exact ⟨plain, ordered.order, ordered.admitted⟩

/-- Queues of one place each, in front of a memory that serves one request at a time. -/
theorem journey_eq_range_single_places :
    SecureModuleConfig.validate { requestCapacity := 1, responseCapacity := 1, clockPeriod := 3 } =
      .ok () ∧
    Workload.validate { numRequests := 20 } = .ok () ∧
    ∃ module, SecureModule.build { requestCapacity := 1, responseCapacity := 1, clockPeriod := 3 } =
        .ok module ∧
      Yields (start module (Recorded.blank (RequestGenerator.fresh { numRequests := 20 }))
          (Recorded.blank (MemoryModel.idle { maxOutstanding := 1 })) >>= fireMany 100) fun sim =>
        start module (RequestGenerator.fresh { numRequests := 20 })
            (MemoryModel.idle { maxOutstanding := 1 }) >>= fireMany 100 =
          .ok (sim.map Recorded.peer Recorded.peer) ∧
        Pipeline.journey sim.rig = List.range sim.rig.requester.peer.created ∧
        sim.rig.component.stats.total = sim.rig.requester.peer.stats.issued := by
  obtain ⟨module, built, ordered⟩ := journey_eq_range
    { requestCapacity := 1, responseCapacity := 1, clockPeriod := 3 } { maxOutstanding := 1 }
    { numRequests := 20 } rfl rfl 100
  cases built
  exact ⟨rfl, rfl, _, rfl, ordered.yields_of_isOk (by decide +kernel)⟩

end Simulation

end GatedMemory
