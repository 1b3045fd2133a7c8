import GatedMemory.Proofs.Link.Order
import GatedMemory.Proofs.Rounds

set_option autoImplicit false

namespace GatedMemory

namespace BenchmarkConfig

variable {config : BenchmarkConfig}

/-- Ticks from the sending of a request to the arrival of its response. -/
def linkTrip (config : BenchmarkConfig) : Nat :=
  2 * config.link.latency + config.memory.accessLatency

/-- Requests sent in successive ticks, before the next has to wait for a response. -/
def linkBatch (config : BenchmarkConfig) : Nat :=
  min config.workload.maxOutstanding config.linkTrip

/-- When the request with this number is sent. -/
def sendTick (config : BenchmarkConfig) (number : Nat) : Nat :=
  roundTick config.linkBatch config.linkTrip number

/-- When it arrives at memory. -/
def arriveTick (config : BenchmarkConfig) (number : Nat) : Nat :=
  config.sendTick number + config.link.latency

/-- When memory sends its response. -/
def replyTick (config : BenchmarkConfig) (number : Nat) : Nat :=
  config.arriveTick number + config.memory.accessLatency

/-- When the response arrives at the requester. -/
def landTick (config : BenchmarkConfig) (number : Nat) : Nat :=
  config.sendTick number + config.linkTrip

/-- The clock of the link ticks all the time, no packet arrives in the tick in which it was sent,
and memory can serve as many requests as the requester sends ahead. -/
structure Smooth (config : BenchmarkConfig) : Prop extends config.Positive where
  everyTick : config.link.clockPeriod = 1
  delayed : 0 < config.link.latency
  fits : config.workload.maxOutstanding ≤ config.memory.maxOutstanding

theorem landTick_eq (number : Nat) :
    config.landTick number = config.replyTick number + config.link.latency := by
  unfold landTick replyTick arriveTick linkTrip
  omega

namespace Smooth

variable (smooth : config.Smooth)
include smooth

theorem linkBatch_pos : 0 < config.linkBatch := by
  have window := smooth.window
  have delayed := smooth.delayed
  unfold linkBatch linkTrip
  omega

theorem strictMono_sendTick : StrictMono config.sendTick :=
  strictMono_roundTick smooth.linkBatch_pos (Nat.min_le_right _ _)

theorem strictMono_replyTick : StrictMono config.replyTick := by
  intro number other before
  have later := smooth.strictMono_sendTick before
  unfold replyTick arriveTick
  omega

theorem sendTick_le_mul (number : Nat) : config.sendTick number ≤ number * config.linkTrip :=
  roundTick_le_mul smooth.linkBatch_pos (Nat.min_le_right _ _) number

theorem strictMono_landTick : StrictMono config.landTick :=
  fun _ _ before => Nat.add_lt_add_right (smooth.strictMono_sendTick before) _

end Smooth

/-- A packet on the link tells when its request was created, which is when it was to be sent, and
comes out when it is to arrive. -/
def Meets (config : BenchmarkConfig) : Nat × LinkEvent → Prop
  | (tick, .requestArrives packet) =>
    packet.createdAt = config.sendTick packet.id ∧ tick = config.arriveTick packet.id
  | (tick, .responseArrives packet) =>
    packet.createdAt = config.sendTick packet.id ∧ tick = config.landTick packet.id

end BenchmarkConfig

namespace Crossing

variable {config : BenchmarkConfig} {rig next : Crossing} {travelling : List (Nat × LinkEvent)}

def replied (rig : Crossing) (travelling : List (Nat × LinkEvent)) : Nat :=
  rig.requester.peer.stats.responses + (responsesOf travelling).length

def arrived (rig : Crossing) (travelling : List (Nat × LinkEvent)) : Nat :=
  rig.replied travelling + rig.memory.peer.serving.length

theorem mem_responsesOf {packet : Packet} (member : packet ∈ responsesOf travelling) :
    ∃ tick, (tick, .responseArrives packet) ∈ travelling := by
  obtain ⟨⟨tick, event⟩, present, same⟩ := List.mem_filterMap.1 member
  cases event with
  | requestArrives => cases same
  | responseArrives =>
    cases same
    exact ⟨tick, present⟩

theorem mem_requestsOf {packet : Packet} (member : packet ∈ requestsOf travelling) :
    ∃ tick, (tick, .requestArrives packet) ∈ travelling := by
  obtain ⟨⟨tick, event⟩, present, same⟩ := List.mem_filterMap.1 member
  cases event with
  | requestArrives =>
    cases same
    exact ⟨tick, present⟩
  | responseArrives => cases same

namespace Ordered

variable (ordered : Ordered config rig travelling) (accounted : rig.requester.Accounted)
include ordered accounted

theorem created_eq : rig.requester.peer.created =
    rig.arrived travelling + (requestsOf travelling).length := by
  have length := congrArg List.length ordered.order
  simp only [along, List.length_map, List.length_append, List.length_range,
    accounted.length_taken] at length
  exact length.symm

theorem head_response {head : Packet} {others : List Packet}
    (split : responsesOf travelling = head :: others) :
    head.id = rig.requester.peer.stats.responses := by
  have order := ordered.order
  simp only [along, split, List.map_append, List.map_cons, List.append_assoc, List.cons_append]
    at order
  rw [eq_length_of_range order, List.length_map, accounted.length_taken]

theorem head_serving {entry : Nat × Packet} {rest : List (Nat × Packet)}
    (serving : rig.memory.peer.serving = entry :: rest) : entry.2.id = rig.replied travelling := by
  have order := ordered.order
  simp only [along, serving, List.map_append, List.map_cons, List.append_assoc,
    List.cons_append] at order
  rw [← List.append_assoc] at order
  rw [eq_length_of_range order, List.length_append, List.length_map, List.length_map, replied,
    accounted.length_taken]

theorem head_request {head : Packet} {others : List Packet}
    (split : requestsOf travelling = head :: others) : head.id = rig.arrived travelling := by
  have order := ordered.order
  simp only [along, split, List.map_append, List.map_cons] at order
  rw [eq_length_of_range order]
  simp only [List.length_append, List.length_map, arrived, replied, accounted.length_taken]

/-- While a request is on the link, so is the next that memory takes. -/
theorem exists_request (more : rig.arrived travelling < rig.requester.peer.created) :
    ∃ tick packet, (tick, .requestArrives packet) ∈ travelling ∧
      packet.id = rig.arrived travelling := by
  have travels : requestsOf travelling ≠ [] := by
    intro empty
    have created := ordered.created_eq accounted
    rw [empty, List.length_nil] at created
    omega
  obtain ⟨head, others, split⟩ := List.exists_cons_of_ne_nil travels
  obtain ⟨tick, member⟩ := mem_requestsOf (split ▸ List.mem_cons_self)
  exact ⟨tick, head, member, ordered.head_request accounted split⟩

/-- While a response is on the link, so is the next that the requester takes. -/
theorem exists_response (more : rig.requester.peer.stats.responses < rig.replied travelling) :
    ∃ tick packet, (tick, .responseArrives packet) ∈ travelling ∧
      packet.id = rig.requester.peer.stats.responses := by
  have travels : responsesOf travelling ≠ [] := by
    intro empty
    rw [replied, empty, List.length_nil] at more
    omega
  obtain ⟨head, others, split⟩ := List.exists_cons_of_ne_nil travels
  obtain ⟨tick, member⟩ := mem_responsesOf (split ▸ List.mem_cons_self)
  exact ⟨tick, head, member, ordered.head_response accounted split⟩

end Ordered

/-- Of the requests, exactly those are sent and answered that were due to be so before these ticks.
What is on the link and what memory serves is due by the timetable, as was what has arrived. -/
structure Punctual (config : BenchmarkConfig) (rig : Crossing)
    (travelling : List (Nat × LinkEvent)) (serving issuing : Nat) : Prop
    extends Ordered config rig travelling where
  accounted : rig.requester.Accounted
  rejections : rig.memory.peer.rejections = 0
  stats : rig.requester.peer.stats =
    .uniform config.linkTrip rig.requester.peer.created rig.requester.peer.stats.responses
  created : Passed config.sendTick config.workload.numRequests issuing rig.requester.peer.created
  sent : Passed config.replyTick config.workload.numRequests serving (rig.replied travelling)
  landed : ∀ number < rig.requester.peer.stats.responses, config.landTick number ≤ rig.now
  onWay : ∀ event ∈ travelling, config.Meets event
  inService : ∀ entry ∈ rig.memory.peer.serving,
    entry.2.createdAt = config.sendTick entry.2.id ∧ entry.1 = config.replyTick entry.2.id
  receipts : ∀ receipt ∈ rig.requester.receipts,
    receipt.1 = receipt.2.createdAt + config.linkTrip

/-- While the clock acts, these packets are on the link, in the order in which they entered it, and
all of them are due later. -/
structure Laden (rig : Crossing) (travelling : List (Nat × LinkEvent)) (tick : Nat) : Prop
    extends Queued rig travelling where
  now : rig.now = tick
  awaits : rig.events.Awaits (travelling.map LinkEvent.arrival)
  late : ∀ event ∈ travelling, tick < event.1

variable {tick serving issuing : Nat} {packet answer : Packet}

/-- A link whose clock ticks all the time carries a packet in as many ticks as it has cycles. -/
theorem arrivalTick_eq (smooth : config.Smooth) (configured : rig.component.config = config.link)
    (now : rig.now = tick) :
    FixedLatencyLink.arrivalTick rig = tick + config.link.latency := by
  rw [FixedLatencyLink.arrivalTick, configured, smooth.everyTick,
    Clock.edge_of_dvd Nat.one_pos (Nat.one_dvd _), Nat.mul_one, now]

theorem Laden.carry (laden : Laden rig travelling tick) (smooth : config.Smooth)
    (configured : rig.component.config = config.link) (event : LinkEvent) :
    Laden (FixedLatencyLink.carrying rig event)
      (travelling ++ [(tick + config.link.latency, event)]) tick := by
  have arrival := arrivalTick_eq smooth configured laden.now
  have future : rig.events.now ≤ FixedLatencyLink.arrivalTick rig := Clock.le_edge laden.period
  rw [← arrival]
  refine { laden.toQueued.carry event with now := laden.now, awaits := ?_, late := ?_ }
  · have awaits := laden.awaits.schedule future Priority.standard
      (SimulationEvent.component event)
    refine awaits.reorder ?_
    rw [List.map_append]
    exact (List.perm_append_singleton _ _).symm
  · intro other member
    have delayed := smooth.delayed
    rcases List.mem_append.1 member with old | new
    · exact laden.late other old
    · rw [List.mem_singleton.1 new, arrival]
      omega

namespace Punctual

theorem pass (punctual : Punctual config rig travelling serving issuing)
    {events : EventQueue (SimulationEvent LinkEvent)} (passed : rig.now ≤ events.now) :
    Punctual config { rig with events } travelling serving issuing :=
  { punctual with
    toOrdered := punctual.toOrdered.pass passed
    landed := fun number before => Nat.le_trans (punctual.landed number before) passed }

theorem accept
    (punctual : Punctual config rig ((tick, .requestArrives packet) :: travelling) serving issuing)
    (now : rig.now = tick) (answered : packet.response? = some answer) :
    Punctual config { rig with memory := rig.memory.accepting packet answer rig.now } travelling
      serving issuing := by
  have same := Packet.eq_of_response? answered
  have id : answer.id = packet.id := by rw [same]
  have createdAt : answer.createdAt = packet.createdAt := by rw [same]
  obtain ⟨dated, due⟩ := punctual.onWay _ List.mem_cons_self
  refine { punctual with
    toOrdered := punctual.toOrdered.accept answered
    onWay := fun event member => punctual.onWay event (List.mem_cons_of_mem _ member)
    inService := ?_ }
  intro entry member
  rcases List.mem_append.1 member with old | new
  · exact punctual.inService entry old
  · rw [List.mem_singleton.1 new, punctual.memory, now, id, createdAt, due]
    exact ⟨dated, rfl⟩

theorem deliver
    (punctual : Punctual config rig ((tick, .responseArrives packet) :: travelling) serving issuing)
    (now : rig.now = tick) :
    Punctual config { rig with requester := rig.requester.receiving packet rig.now } travelling
      serving issuing := by
  obtain ⟨dated, due⟩ := punctual.onWay _ List.mem_cons_self
  have number : packet.id = rig.requester.peer.stats.responses :=
    punctual.toOrdered.head_response punctual.accounted rfl
  have waited : rig.now = packet.createdAt + config.linkTrip := by
    rw [now, due, dated, BenchmarkConfig.landTick]
  have sent := punctual.sent
  refine { punctual with
    toOrdered := punctual.toOrdered.deliver
    accounted := punctual.accounted.receive packet _
    stats := ?_, sent := ?_, landed := ?_, receipts := ?_
    onWay := fun event member => punctual.onWay event (List.mem_cons_of_mem _ member) }
  · change rig.requester.peer.stats.addResponse (rig.now - packet.createdAt) =
      .uniform config.linkTrip rig.requester.peer.created
        (rig.requester.peer.stats.responses + 1)
    rw [← TrafficStats.uniform_addResponse, ← punctual.stats, waited, Nat.add_sub_cancel_left]
  · -- the response was on the link, and is not lost
    have same : rig.replied ((tick, .responseArrives packet) :: travelling) =
        rig.requester.peer.stats.responses + 1 + (responsesOf travelling).length := by
      change rig.requester.peer.stats.responses + ((responsesOf travelling).length + 1) = _
      omega
    rw [same] at sent
    exact sent
  · intro other before
    rcases Nat.lt_succ_iff_lt_or_eq.1 before with earlier | rfl
    · exact punctual.landed other earlier
    · rw [← number, ← due]
      exact Nat.le_of_eq now.symm
  · intro receipt member
    rw [RecordedRequester.receipts_receiving] at member
    rcases List.mem_append.1 member with old | new
    · exact punctual.receipts receipt old
    · rw [List.mem_singleton.1 new]
      exact waited

theorem arrive {event : LinkEvent}
    (punctual : Punctual config rig ((tick, event) :: travelling) serving issuing)
    (smooth : config.Smooth) (queued : rig.Queued travelling) (now : rig.now = tick) :
    ∃ next : Crossing, FixedLatencyLink.handle event rig = (none, next) ∧
      Punctual config next travelling serving issuing ∧ next.Queued travelling ∧
      next.events = rig.events := by
  have room := punctual.hasRoom smooth.fits (List.cons_ne_nil _ _)
  have arrives := punctual.handle List.mem_cons_self
  generalize FixedLatencyLink.handle event rig = outcome at arrives
  cases arrives with
  | accepted _ answered => exact ⟨_, rfl, punctual.accept now answered, { queued with }, rfl⟩
  | refused full =>
    rw [room] at full
    cases full
  | delivered => exact ⟨_, rfl, punctual.deliver now, { queued with }, rfl⟩

section

variable (punctual : Punctual config rig travelling serving issuing) (smooth : config.Smooth)
  (late : ∀ event ∈ travelling, tick < event.1)
include punctual smooth late

theorem lt_arriveTick (soon : tick ≤ issuing)
    (more : rig.arrived travelling < config.workload.numRequests) :
    tick < config.arriveTick (rig.arrived travelling) := by
  have created := punctual.toOrdered.created_eq punctual.accounted
  apply punctual.created.lt_add_delay smooth.delayed soon (by omega) more
  intro waiting
  obtain ⟨arrival, packet, member, number⟩ :=
    punctual.toOrdered.exists_request punctual.accounted waiting
  have due := (punctual.onWay _ member).2
  have coming := late _ member
  rw [due, number] at coming
  exact coming

/-- The next response to arrive at the requester is due later. -/
theorem lt_landTick (soon : tick ≤ serving)
    (more : rig.requester.peer.stats.responses < config.workload.numRequests) :
    tick < config.landTick rig.requester.peer.stats.responses := by
  rw [BenchmarkConfig.landTick_eq]
  apply punctual.sent.lt_add_delay smooth.delayed soon (Nat.le_add_right _ _) more
  intro waiting
  obtain ⟨arrival, packet, member, number⟩ :=
    punctual.toOrdered.exists_response punctual.accounted waiting
  have due := (punctual.onWay _ member).2
  have coming := late _ member
  rw [due, number, BenchmarkConfig.landTick_eq] at coming
  exact coming

/-- Of the responses, exactly those have arrived that were due. -/
theorem returned (now : rig.now = tick) (soon : tick ≤ serving) :
    Passed config.landTick config.workload.numRequests (tick + 1)
      rig.requester.peer.stats.responses where
  inside := Nat.le_trans (Nat.le_add_right _ _) punctual.sent.inside
  past number before := Nat.lt_succ_of_le (now ▸ punctual.landed number before)
  next := punctual.lt_landTick smooth late soon

end

/-- The window is open exactly when the next request is due. -/
theorem canCreate_iff (punctual : Punctual config rig travelling serving tick)
    (smooth : config.Smooth) (late : ∀ event ∈ travelling, tick < event.1) (now : rig.now = tick)
    (soon : tick ≤ serving) : rig.requester.peer.canCreate = true ↔
      rig.requester.peer.created < config.workload.numRequests ∧
        config.sendTick rig.requester.peer.created = tick := by
  have created := punctual.toOrdered.created_eq punctual.accounted
  have issued : rig.requester.peer.stats.issued = rig.requester.peer.created :=
    congrArg TrafficStats.issued punctual.stats
  have order : rig.requester.peer.stats.responses ≤ rig.requester.peer.created := by
    unfold arrived replied at created
    omega
  have due_iff := roundTick_le_iff smooth.linkBatch_pos punctual.created
    (punctual.returned smooth late now soon) order
  rw [RequestGenerator.canCreate_iff, punctual.workload, RequestGenerator.inFlight, issued]
  refine and_congr_right fun more => ?_
  rw [← due_iff more]
  exact ⟨punctual.created.due_eq more, Nat.le_of_eq⟩

theorem serve (punctual : Punctual config rig travelling tick tick) (smooth : config.Smooth)
    (laden : Laden rig travelling tick) (serves : rig.Serves next) : ∃ travelling',
      Punctual config next travelling' (tick + 1) tick ∧ Laden next travelling' tick ∧
      travelling'.length ≤ travelling.length + 1 := by
  cases serves with
  | idle quiet =>
    refine ⟨travelling, { punctual with sent := punctual.sent.rest ?_ }, laden, Nat.le_succ _⟩
    intro more due
    -- a response that is due now has its request in service, for that one arrived in time
    have busy : rig.memory.peer.serving ≠ [] := by
      intro empty
      have coming := punctual.lt_arriveTick smooth laden.late (Nat.le_refl _)
      rw [arrived, empty, List.length_nil, Nat.add_zero] at coming
      have later := coming more
      unfold BenchmarkConfig.replyTick at due
      omega
    obtain ⟨entry, rest, serving⟩ := List.exists_cons_of_ne_nil busy
    obtain ⟨-, ready⟩ := punctual.inService entry (serving ▸ List.mem_cons_self)
    rw [punctual.toOrdered.head_serving punctual.accounted serving, due] at ready
    rcases quiet with blocked | none
    · rw [punctual.unblocked] at blocked
      cases blocked
    · have later := none entry (by rw [serving]; rfl)
      rw [laden.now] at later
      omega
  | @sent due answer rest _ serving ready =>
    obtain ⟨dated, dueAt⟩ := punctual.inService (due, answer) (serving ▸ List.mem_cons_self)
    have number := punctual.toOrdered.head_serving punctual.accounted serving
    have created := punctual.toOrdered.created_eq punctual.accounted
    have inside := punctual.created.inside
    rw [arrived, serving, List.length_cons] at created
    have more : rig.replied travelling < config.workload.numRequests := by omega
    have reached : config.replyTick (rig.replied travelling) ≤ tick := by
      rw [← number, ← dueAt, ← laden.now]
      exact ready
    have exact_tick := punctual.sent.due_eq more reached
    have arrival := arrivalTick_eq smooth punctual.configured laden.now
    have entered := punctual.toOrdered.release smooth.toPositive serving
    rw [arrival] at entered
    have left : Laden { rig with memory := rig.memory.withServing rest } travelling tick :=
      { laden with }
    refine ⟨_, { punctual with
      toOrdered := entered, sent := ?_, onWay := ?_, inService := ?_ },
      left.carry smooth punctual.configured _, Nat.le_of_eq (List.length_append)⟩
    · have advanced := punctual.sent.advance smooth.strictMono_replyTick more reached
      simp only [replied, responsesOf_concat, LinkEvent.response?, Option.toList_some,
        List.length_append, List.length_singleton, ← Nat.add_assoc]
      exact advanced
    · intro event member
      rcases List.mem_append.1 member with old | new
      · exact punctual.onWay event old
      · rw [List.mem_singleton.1 new]
        refine ⟨dated, ?_⟩
        rw [BenchmarkConfig.landTick_eq, number, exact_tick]
    · exact fun entry member => punctual.inService entry (serving ▸ List.mem_cons_of_mem _ member)

theorem issue (punctual : Punctual config rig travelling (tick + 1) tick) (smooth : config.Smooth)
    (laden : Laden rig travelling tick) (issues : rig.Issues next) : ∃ travelling',
      Punctual config next travelling' (tick + 1) (tick + 1) ∧ Laden next travelling' tick ∧
      travelling'.length ≤ travelling.length + 1 := by
  have able_iff := punctual.canCreate_iff smooth laden.late laden.now (Nat.le_succ _)
  cases issues with
  | idle quiet =>
    refine ⟨travelling, { punctual with created := punctual.created.rest ?_ }, laden,
      Nat.le_succ _⟩
    intro more due
    rcases quiet with awaits | ⟨-, closed⟩
    · rw [punctual.free] at awaits
      cases awaits
    · rw [able_iff.2 ⟨more, due⟩] at closed
      cases closed
  | @sent packet source offers =>
    obtain ⟨able, id, createdAt, one_more⟩ := offers.created_of_empty punctual.held
    obtain ⟨more, due⟩ := able_iff.1 able
    obtain ⟨-, -, stats, -⟩ := offers.after
    have responses : source.accepted.stats.responses = rig.requester.peer.stats.responses :=
      offers.accepted_responses
    have arrival := arrivalTick_eq smooth punctual.configured laden.now
    have entered := punctual.toOrdered.send smooth.toPositive offers
    rw [arrival] at entered
    have left : Laden { rig with requester := { rig.requester with peer := source.accepted } }
        travelling tick := { laden with }
    have counted := punctual.created.advance smooth.strictMono_sendTick more (Nat.le_of_eq due)
    refine ⟨_, { punctual with
      toOrdered := entered
      accounted := punctual.accounted.issue offers
      stats := ?_
      created := one_more.symm ▸ counted
      sent := ?_
      landed := responses.symm ▸ punctual.landed
      onWay := ?_ }, left.carry smooth punctual.configured _, Nat.le_of_eq (List.length_append)⟩
    · change { source.stats with issued := source.stats.issued + 1 } =
        TrafficStats.uniform config.linkTrip source.created source.stats.responses
      rw [stats, one_more, punctual.stats]
      rfl
    · have sent := punctual.sent
      simp only [replied, responsesOf_concat, LinkEvent.response?, Option.toList_none,
        List.append_nil]
      change Passed _ _ _ (source.accepted.stats.responses + _)
      rw [responses]
      exact sent
    · intro event member
      rcases List.mem_append.1 member with old | new
      · exact punctual.onWay event old
      · rw [List.mem_singleton.1 new]
        refine ⟨?_, ?_⟩
        · rw [createdAt, id, due]
          exact laden.now
        · rw [BenchmarkConfig.arriveTick, id, due]

end Punctual

end Crossing

end GatedMemory
