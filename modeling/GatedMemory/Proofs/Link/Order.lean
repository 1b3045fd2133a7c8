import GatedMemory.Proofs.Link.Timing

set_option autoImplicit false

namespace GatedMemory

namespace LinkEvent

def request? : LinkEvent → Option Packet
  | requestArrives packet => some packet
  | responseArrives _ => none

def response? : LinkEvent → Option Packet
  | requestArrives _ => none
  | responseArrives packet => some packet

def ofEntry? (entry : EventEntry (SimulationEvent LinkEvent)) : Option (Nat × LinkEvent) :=
  match entry.payload with
  | .component event => some (entry.tick, event)
  | .clock => none

end LinkEvent

namespace Crossing

variable {config : BenchmarkConfig} {rig next : Crossing} {travelling : List (Nat × LinkEvent)}

/-- The packets on the link in the order of their events, and when they arrive. -/
def onLink (events : EventQueue (SimulationEvent LinkEvent)) : List (Nat × LinkEvent) :=
  events.pending.filterMap LinkEvent.ofEntry?

/-- These packets are on the link, in the order in which they entered it. -/
structure Queued (rig : Crossing) (travelling : List (Nat × LinkEvent)) : Prop where
  listed : onLink rig.events = travelling
  sound : rig.events.Sound
  ranked : rig.events.Ranked LinkEvent.rank
  period : 0 < rig.component.config.clockPeriod
  behind : ∀ event ∈ travelling, event.1 ≤ FixedLatencyLink.arrivalTick rig

namespace Queued

variable (queued : rig.Queued travelling)
include queued

/-- A packet that enters the link arrives after all that are on it. -/
theorem carry (event : LinkEvent) : Queued (FixedLatencyLink.carrying rig event)
    (travelling ++ [(FixedLatencyLink.arrivalTick rig, event)]) where
  listed := by
    rw [← queued.listed]
    refine filterMap_insertEntry_of_last queued.sound.sorted fun other member before => ?_
    cases shown : LinkEvent.ofEntry? other with
    | none => rfl
    | some arrival =>
      -- the other packet is due no later, and its event was scheduled earlier
      have listed : arrival ∈ travelling :=
        queued.listed ▸ List.mem_filterMap.2 ⟨other, member, shown⟩
      have due := queued.behind arrival listed
      have number := queued.sound.numbered other member
      have priority := queued.ranked other member
      unfold LinkEvent.ofEntry? at shown
      split at shown
      case h_1 event' payload =>
        cases shown
        rw [payload] at priority
        change other.priority = Priority.standard at priority
        simp only [EventEntry.Precedes] at before
        omega
      case h_2 => cases shown
  sound := EventQueue.scheduled_sound queued.sound (Clock.le_edge queued.period)
  ranked := by
    have priority : Priority.standard = LinkEvent.rank (.component event) := rfl
    exact queued.ranked.schedule priority _
  period := queued.period
  behind := by
    intro other member
    rcases List.mem_append.1 member with old | new
    · exact queued.behind other old
    · rw [List.mem_singleton.1 new]
      exact Nat.le_refl _

/-- The clock is scheduled: the packets on the link stay in order. -/
theorem awaitTick {tick : Nat} (future : rig.now ≤ tick) :
    Queued { rig with events := rig.events.scheduled tick Priority.external .clock }
      travelling where
  listed := (filterMap_insertEntry_of_none rfl _).trans queued.listed
  sound := EventQueue.scheduled_sound queued.sound future
  ranked := by
    have priority : Priority.external = LinkEvent.rank .clock := rfl
    exact queued.ranked.schedule priority tick
  period := queued.period
  behind := queued.behind

theorem fire {entry : EventEntry (SimulationEvent LinkEvent)}
    {rest : List (EventEntry (SimulationEvent LinkEvent))}
    (pending : rig.events.pending = entry :: rest) : ∃ left,
      travelling = (LinkEvent.ofEntry? entry).toList ++ left ∧
      Queued { rig with events := rig.events.after entry rest } left := by
  have listed : travelling =
      (LinkEvent.ofEntry? entry).toList ++ onLink (rig.events.after entry rest) := by
    rw [← queued.listed, onLink, pending, List.filterMap_cons]
    cases LinkEvent.ofEntry? entry <;> rfl
  refine ⟨_, listed, rfl, EventQueue.after_sound queued.sound pending,
    queued.ranked.fire pending, queued.period, fun event member => ?_⟩
  have elapsed := EventQueue.now_le_of_pending queued.sound pending
  have due := queued.behind event (listed ▸ List.mem_append_right _ member)
  exact Nat.le_trans due (Clock.edge_le_edge _ elapsed (Nat.le_refl _))

end Queued

def requestsOf (travelling : List (Nat × LinkEvent)) : List Packet :=
  travelling.filterMap fun event => event.2.request?

def responsesOf (travelling : List (Nat × LinkEvent)) : List Packet :=
  travelling.filterMap fun event => event.2.response?

theorem requestsOf_concat (tick : Nat) (event : LinkEvent) :
    requestsOf (travelling ++ [(tick, event)]) =
      requestsOf travelling ++ event.request?.toList := by
  rw [requestsOf, List.filterMap_append]
  cases event <;> rfl

theorem responsesOf_concat (tick : Nat) (event : LinkEvent) :
    responsesOf (travelling ++ [(tick, event)]) =
      responsesOf travelling ++ event.response?.toList := by
  rw [responsesOf, List.filterMap_append]
  cases event <;> rfl

/-- The numbers of all requests and responses on their way, oldest first, after those of the
responses that the requester has taken, with these packets on the link. -/
def along (rig : Crossing) (travelling : List (Nat × LinkEvent)) : List Nat :=
  (rig.requester.taken ++ responsesOf travelling ++ rig.memory.peer.serving.map Prod.snd ++
    requestsOf travelling).map Packet.id

/-- The numbers of all requests and responses on their way, oldest first, after those of the
responses that the requester has taken. -/
def journey (rig : Crossing) : List Nat :=
  along rig (onLink rig.events)

/-- Every request that was created is somewhere on its way, or was answered, in order. -/
structure Ordered (config : BenchmarkConfig) (rig : Crossing)
    (travelling : List (Nat × LinkEvent)) : Prop extends Steady config rig travelling where
  order : along rig travelling = List.range rig.requester.peer.created

namespace Ordered

theorem pass (ordered : Ordered config rig travelling)
    {events : EventQueue (SimulationEvent LinkEvent)} (passed : rig.now ≤ events.now) :
    Ordered config { rig with events } travelling :=
  { ordered.toSteady.pass passed with order := ordered.order }

theorem accept {tick : Nat} {packet answer : Packet}
    (ordered : Ordered config rig ((tick, .requestArrives packet) :: travelling))
    (answered : packet.response? = some answer) :
    Ordered config { rig with memory := rig.memory.accepting packet answer rig.now }
      travelling := by
  have same : answer.id = packet.id := by rw [Packet.eq_of_response? answered]
  refine { ordered.toSteady.accept answer with order := Eq.trans ?_ ordered.order }
  have split : requestsOf ((tick, .requestArrives packet) :: travelling) =
      packet :: requestsOf travelling := rfl
  have kept : responsesOf ((tick, .requestArrives packet) :: travelling) =
      responsesOf travelling := rfl
  simp only [along, split, kept, RecordedMemory.accepting, Recorded.note, List.map_append,
    List.map_cons, List.map_nil, List.append_assoc, List.singleton_append, same]

theorem deliver {tick : Nat} {packet : Packet}
    (ordered : Ordered config rig ((tick, .responseArrives packet) :: travelling)) :
    Ordered config { rig with requester := rig.requester.receiving packet rig.now }
      travelling := by
  refine { ordered.toSteady.deliver with order := Eq.trans ?_ ordered.order }
  have split : responsesOf ((tick, .responseArrives packet) :: travelling) =
      packet :: responsesOf travelling := rfl
  have kept : requestsOf ((tick, .responseArrives packet) :: travelling) =
      requestsOf travelling := rfl
  simp only [along, split, kept, RecordedRequester.taken_receiving, List.append_assoc,
    List.singleton_append]

variable (ordered : Ordered config rig travelling)
include ordered

theorem release (positive : config.Positive) {due : Nat} {answer : Packet}
    {rest : List (Nat × Packet)} (serving : rig.memory.peer.serving = (due, answer) :: rest) :
    Ordered config (FixedLatencyLink.carrying { rig with memory := rig.memory.withServing rest }
        (.responseArrives answer))
      (travelling ++ [(FixedLatencyLink.arrivalTick rig, .responseArrives answer)]) := by
  have entered := (ordered.toSteady.release positive serving).reorder
    (List.perm_append_singleton _ _).symm
  refine { entered with order := Eq.trans ?_ ordered.order }
  simp only [along, requestsOf_concat, responsesOf_concat, FixedLatencyLink.carrying,
    RecordedMemory.withServing, LinkEvent.request?, LinkEvent.response?, Option.toList_none,
    Option.toList_some, serving, List.map_cons, List.append_nil, List.append_assoc,
    List.singleton_append]

theorem send (positive : config.Positive) {packet : Packet} {source : RequestGenerator}
    (offers : rig.requester.peer.Offers rig.now packet source) :
    Ordered config (FixedLatencyLink.carrying
        { rig with requester := { rig.requester with peer := source.accepted } }
        (.requestArrives packet))
      (travelling ++ [(FixedLatencyLink.arrivalTick rig, .requestArrives packet)]) := by
  have entered := (ordered.toSteady.send positive offers).reorder
    (List.perm_append_singleton _ _).symm
  have order : along rig travelling ++ rig.requester.peer.held.toList.map Packet.id =
      List.range rig.requester.peer.created := by
    rw [ordered.held, Option.toList_none, List.map_nil, List.append_nil, ordered.order]
  refine { entered with order := Eq.trans ?_ (offers.order order) }
  simp only [along, requestsOf_concat, responsesOf_concat, FixedLatencyLink.carrying,
    Recorded.taken, LinkEvent.request?, LinkEvent.response?, Option.toList_none,
    Option.toList_some, List.append_nil, List.append_assoc, List.map_append, List.map_cons,
    List.map_nil]

end Ordered

/-- The packets on the link are in order, as are those that have left it. -/
def InOrder (config : BenchmarkConfig) (rig : Crossing) : Prop :=
  ∃ travelling, Ordered config rig travelling ∧ rig.Queued travelling

theorem InOrder.serve (inOrder : InOrder config rig) (positive : config.Positive)
    (serves : rig.Serves next) : InOrder config next := by
  obtain ⟨travelling, ordered, queued⟩ := inOrder
  cases serves with
  | idle => exact ⟨travelling, ordered, queued⟩
  | @sent due answer rest _ serving =>
    have left : Queued { rig with memory := rig.memory.withServing rest } travelling :=
      { queued with }
    exact ⟨_, ordered.release positive serving, left.carry _⟩

theorem InOrder.issue (inOrder : InOrder config rig) (positive : config.Positive)
    (issues : rig.Issues next) : InOrder config next := by
  obtain ⟨travelling, ordered, queued⟩ := inOrder
  cases issues with
  | idle => exact ⟨travelling, ordered, queued⟩
  | @sent packet source offers =>
    have left : Queued { rig with requester := { rig.requester with peer := source.accepted } }
        travelling := { queued with }
    exact ⟨_, ordered.send positive offers, left.carry _⟩

/-- A packet arrives: memory has room for it, and the requester takes it. -/
theorem InOrder.arrive (fits : config.workload.maxOutstanding ≤ config.memory.maxOutstanding)
    {tick : Nat} {event : LinkEvent}
    (ordered : Ordered config rig ((tick, event) :: travelling)) (queued : rig.Queued travelling) :
    ∃ next : Crossing, FixedLatencyLink.handle event rig = (none, next) ∧
      InOrder config next := by
  have room := ordered.hasRoom fits (List.cons_ne_nil _ _)
  have arrives := ordered.handle List.mem_cons_self
  generalize FixedLatencyLink.handle event rig = outcome at arrives
  cases arrives with
  | accepted _ answered => exact ⟨_, rfl, _, ordered.accept answered, { queued with }⟩
  | refused full =>
    rw [room] at full
    cases full
  | delivered => exact ⟨_, rfl, _, ordered.deliver, { queued with }⟩

end Crossing

namespace Simulation

variable {config : BenchmarkConfig}
  {sim : Simulation FixedLatencyLink RecordedRequester RecordedMemory LinkEvent}

/-- What holds between any two events. -/
structure CrossesInOrder (config : BenchmarkConfig)
    (sim : Simulation FixedLatencyLink RecordedRequester RecordedMemory LinkEvent) : Prop where
  inOrder : Crossing.InOrder config sim.rig
  priority : sim.clock.priority = Priority.external

theorem finishOrContinue_crosses (crosses : CrossesInOrder config sim) :
    Gives Overflow sim.finishOrContinue (CrossesInOrder config) := by
  apply sim.finishOrContinue_ends.mono
  intro next ends
  cases ends with
  | finished => exact { crosses with }
  | waits =>
    obtain ⟨travelling, ordered, queued⟩ := crosses.inOrder
    have waiting : Crossing.InOrder config sim.awaitingTick.rig := by
      rw [awaitingTick, crosses.priority]
      exact ⟨travelling, { ordered with }, queued.awaitTick (Nat.le_succ _)⟩
    exact ⟨waiting, crosses.priority⟩
  | busy => exact crosses

theorem tick_crosses (positive : config.Positive) (crosses : CrossesInOrder config sim) :
    Gives Overflow sim.tick fun result => result.1 = none ∧ CrossesInOrder config result.2 := by
  obtain ⟨_, ordered, _⟩ := crosses.inOrder
  apply tick_gives
  apply (Crossing.serveResponse_serves (ordered.period positive) fun _ => .overflow).bind
  intro served serves
  have answered := crosses.inOrder.serve positive serves
  have ⟨_, steady, _⟩ := answered
  rw [steady.retry]
  apply (Crossing.issueRequest_issues steady.regular (steady.period positive) .overflow
    fun _ _ _ => .overflow).mono
  rintro ⟨_, issued⟩ ⟨rfl, issues⟩
  have after : CrossesInOrder config
      { sim with rig := issued, clock := sim.clock.occurred } :=
    ⟨answered.issue positive issues, crosses.priority⟩
  exact ⟨rfl, (finishOrContinue_crosses after).mono fun _ kept => ⟨rfl, kept⟩⟩

/-- Whichever event fires, nothing is turned down, and the order is kept. -/
theorem preserves_crosses (positive : config.Positive)
    (fits : config.workload.maxOutstanding ≤ config.memory.maxOutstanding) :
    Preserves Overflow (CrossesInOrder config) := by
  intro sim entry rest crosses pending
  obtain ⟨travelling, ordered, queued⟩ := crosses.inOrder
  have elapsed := EventQueue.now_le_of_pending queued.sound pending
  have passed : Crossing.Ordered config
      { sim.rig with events := sim.rig.events.after entry rest } travelling :=
    ordered.pass elapsed
  obtain ⟨left, split, fired⟩ := queued.fire pending
  rw [split] at passed
  unfold LinkEvent.ofEntry? at passed
  apply handle_gives
  cases payload : entry.payload with
  | clock =>
    rw [payload] at passed
    have crossing : CrossesInOrder config { sim with rig := { sim.rig with
        events := sim.rig.events.after entry rest } } :=
      ⟨⟨left, passed, fired⟩, crosses.priority⟩
    exact tick_crosses positive crossing
  | component event =>
    rw [payload] at passed
    obtain ⟨next, handled, inOrder⟩ := Crossing.InOrder.arrive fits passed fired
    simp only [react, Intermediary.handle, handled, ok_bind]
    exact .ok ⟨rfl, inOrder, crosses.priority⟩

theorem begun_crosses (positive : config.Positive) : CrossesInOrder config
    (begun (.assemble (FixedLatencyLink.fresh config.link)
      (Recorded.blank (RequestGenerator.fresh config.workload))
      (Recorded.blank (MemoryModel.idle config.memory)))) where
  inOrder := ⟨[], { opening_crossing positive with order := rfl }, {
    listed := rfl
    sound := EventQueue.scheduled_sound EventQueue.sound_empty (Nat.le_refl 0)
    ranked := begun_ranked EventQueue.ranked_empty
    period := positive.linkPeriod
    behind := nofun }⟩
  priority := rfl

/-- If memory can serve as many requests as may be sent ahead, then no run over a link fails because
one is turned down. After any number of events the requests created so far are exactly those that
were answered and those on their way, in order, and no more than the window are on their way. -/
theorem link_keeps_order (link : LinkConfig) (memory : MemoryConfig) (workload : Workload)
    (valid : link.validate = .ok ()) (workable : workload.validate = .ok ())
    (fits : workload.maxOutstanding ≤ memory.maxOutstanding) :
    ∃ component, FixedLatencyLink.build link = .ok component ∧
    (∀ maxTicks, Gives Overflow (start component (RequestGenerator.fresh workload)
        (MemoryModel.idle memory) >>= run maxTicks) fun result =>
      ∀ name address, result.1 ≠ .error (.requestRejected name address)) ∧
    ∀ count, Gives Overflow (start component (Recorded.blank (RequestGenerator.fresh workload))
        (Recorded.blank (MemoryModel.idle memory)) >>= fireMany count) fun sim =>
      start component (RequestGenerator.fresh workload) (MemoryModel.idle memory) >>=
        fireMany count = .ok (sim.map Recorded.peer Recorded.peer) ∧
      Crossing.journey sim.rig = List.range sim.rig.requester.peer.created ∧
      sim.rig.requester.peer.stats.issued ≤
        sim.rig.requester.peer.stats.responses + workload.maxOutstanding := by
  obtain ⟨line, window⟩ := Workload.pos_of_validate workable
  let config : BenchmarkConfig := { link, memory, workload }
  have positive : config.Positive := {
    requests := Nat.succ_pos _
    responses := Nat.succ_pos _
    period := Nat.succ_pos _
    linkPeriod := LinkConfig.validate_eq_ok_iff.1 valid
    outstanding := Nat.lt_of_lt_of_le window fits
    window := window
    line := line }
  have preserves := preserves_crosses positive fits
  have opened := begun_crosses positive
  have ready : Intermediary.start (.assemble (FixedLatencyLink.fresh link)
      (Recorded.blank (RequestGenerator.fresh workload))
      (Recorded.blank (MemoryModel.idle memory)) : Crossing) = .ok _ := rfl
  refine ⟨_, FixedLatencyLink.build_eq_ok valid, fun maxTicks => ?_, fun count => ?_⟩
  · have plain := run_eq_recorded (FixedLatencyLink.fresh link) config maxTicks
    rw [start_eq_begun ready rfl, ok_bind] at plain
    rw [plain]
    apply (preserves.run maxTicks opened).map
    rintro ⟨outcome, final⟩ ⟨summarized, -⟩ name address rejected
    simp only at summarized
    simp only [Prod.map, id_eq, summarized, summary] at rejected
    split at rejected <;> cases rejected
  · have plain := fireMany_start_map Recorded.requesterMap Recorded.memoryMap
      (FixedLatencyLink.fresh link) (Recorded.blank (RequestGenerator.fresh workload))
      (Recorded.blank (MemoryModel.idle memory)) count
    rw [start_eq_begun ready rfl, ok_bind] at plain ⊢
    apply (preserves.fireMany count opened).and_eq.mono
    rintro sim ⟨fired, crosses⟩
    obtain ⟨travelling, ordered, queued⟩ := crosses.inOrder
    rw [fired] at plain
    refine ⟨plain, ?_, ordered.window⟩
    rw [Crossing.journey, queued.listed]
    exact ordered.order

/-- The requests of a cycle arrive at the same tick, and fill all the room that memory has. -/
theorem link_keeps_order_instant :
    LinkConfig.validate { latency := 0, clockPeriod := 3 } = .ok () ∧
    Workload.validate { numRequests := 20, maxOutstanding := 3 } = .ok () ∧
    ∃ component, FixedLatencyLink.build { latency := 0, clockPeriod := 3 } = .ok component ∧
    (Yields (start component (RequestGenerator.fresh { numRequests := 20, maxOutstanding := 3 })
        (MemoryModel.idle { maxOutstanding := 3 }) >>= run 60) fun result =>
      ∀ name address, result.1 ≠ .error (.requestRejected name address)) ∧
    Yields (start component (Recorded.blank (RequestGenerator.fresh
          { numRequests := 20, maxOutstanding := 3 }))
        (Recorded.blank (MemoryModel.idle { maxOutstanding := 3 })) >>= fireMany 50) fun sim =>
      start component (RequestGenerator.fresh { numRequests := 20, maxOutstanding := 3 })
        (MemoryModel.idle { maxOutstanding := 3 }) >>= fireMany 50 =
          .ok (sim.map Recorded.peer Recorded.peer) ∧
      Crossing.journey sim.rig = List.range sim.rig.requester.peer.created ∧
      sim.rig.requester.peer.stats.issued ≤ sim.rig.requester.peer.stats.responses + 3 := by
  obtain ⟨component, built, safe, order⟩ := link_keeps_order { latency := 0, clockPeriod := 3 }
    { maxOutstanding := 3 } { numRequests := 20, maxOutstanding := 3 } rfl rfl (Nat.le_refl 3)
  have early := safe 60
  have after := order 50
  obtain rfl : FixedLatencyLink.fresh { latency := 0, clockPeriod := 3 } = component :=
    Except.ok.inj built
  exact ⟨rfl, rfl, _, built, early.yields_of_isOk (by decide +kernel),
    after.yields_of_isOk (by decide +kernel)⟩

end Simulation

end GatedMemory
