import GatedMemory.Proofs.Benchmark
import GatedMemory.Proofs.Link.Punctual

set_option autoImplicit false

namespace GatedMemory

/-- Ticks that a run takes in which everything happens by the timetable. -/
def BenchmarkConfig.linkTicks (config : BenchmarkConfig) : Nat :=
  (config.workload.numRequests - 1) / config.linkBatch * config.linkTrip +
    (config.workload.numRequests - 1) % config.linkBatch + config.linkTrip

/-- No number that comes up in such a run is larger: neither what the addresses are computed from,
nor the sum of the round trips, nor any tick. -/
def BenchmarkConfig.linkBound (config : BenchmarkConfig) : Nat :=
  max config.workload.reach (config.workload.numRequests * config.linkTrip)

namespace BenchmarkConfig

variable {config : BenchmarkConfig} {number : Nat}

theorem linkTicks_eq (config : BenchmarkConfig) :
    config.linkTicks = config.landTick (config.workload.numRequests - 1) := rfl

theorem Smooth.landTick_le (smooth : config.Smooth)
    (inside : number < config.workload.numRequests) :
    config.landTick number ≤ config.linkTicks :=
  smooth.strictMono_landTick.monotone (Nat.le_pred_of_lt inside)

/-- One request at a time would take longer. -/
theorem Smooth.linkTicks_le (smooth : config.Smooth)
    (some_request : 0 < config.workload.numRequests) : config.linkTicks ≤ config.linkBound := by
  have send := smooth.sendTick_le_mul (config.workload.numRequests - 1)
  obtain ⟨last, number⟩ := Nat.exists_eq_succ_of_ne_zero (Nat.ne_of_gt some_request)
  refine Nat.le_trans ?_ (Nat.le_max_right _ _)
  rw [number, Nat.succ_sub_one] at send
  rw [linkTicks_eq, landTick, number, Nat.succ_sub_one, Nat.succ_mul]
  omega

end BenchmarkConfig

namespace Crossing.Punctual

variable {config : BenchmarkConfig} {rig : Crossing} {travelling : List (Nat × LinkEvent)}
  {tick serving issuing : Nat}

theorem timesWithin (punctual : Punctual config rig travelling serving issuing)
    (smooth : config.Smooth) : rig.TimesWithin config.linkBound := by
  have created := punctual.toOrdered.created_eq punctual.accounted
  have bounded := punctual.created.inside
  constructor
  · have responses : rig.requester.peer.stats.responses ≤ config.workload.numRequests := by
      unfold arrived replied at created
      omega
    rw [punctual.stats]
    exact Nat.le_trans (Nat.mul_le_mul_right _ responses) (Nat.le_max_right _ _)
  · intro entry member
    have inside : entry.2.id < rig.requester.peer.created := by
      have onWay : entry.2.id ∈ along rig travelling :=
        List.mem_map_of_mem (List.mem_append_left _ (List.mem_append_right _
          (List.mem_map_of_mem member)))
      rw [punctual.order] at onWay
      exact List.mem_range.1 onWay
    have some_request : 0 < config.workload.numRequests := by omega
    have land := smooth.landTick_le (show entry.2.id < config.workload.numRequests by omega)
    have ticks := smooth.linkTicks_le some_request
    rw [(punctual.inService entry member).2]
    rw [BenchmarkConfig.landTick_eq] at land
    omega

variable (smooth : config.Smooth) (laden : Laden rig travelling tick)
include smooth laden

/-- A response that memory has yet to send is not overdue. -/
theorem reply_lands (punctual : Punctual config rig travelling tick issuing)
    (busy : rig.memory.peer.serving ≠ []) :
    FixedLatencyLink.arrivalTick rig ≤ config.linkTicks := by
  have created := punctual.toOrdered.created_eq punctual.accounted
  have bounded := punctual.created.inside
  have some_entry := List.length_pos_iff.2 busy
  unfold arrived at created
  have more : rig.replied travelling < config.workload.numRequests := by omega
  have soon := punctual.sent.next more
  have land := smooth.landTick_le more
  rw [BenchmarkConfig.landTick_eq] at land
  rw [arrivalTick_eq smooth punctual.configured laden.now]
  omega

theorem request_lands (punctual : Punctual config rig travelling serving tick)
    (soon : tick ≤ serving) {packet : Packet} {source : RequestGenerator}
    (offers : rig.requester.peer.Offers rig.now packet source) :
    FixedLatencyLink.arrivalTick rig ≤ config.linkTicks := by
  obtain ⟨able, -⟩ := offers.created_of_empty punctual.held
  obtain ⟨more, due⟩ := (punctual.canCreate_iff smooth laden.late laden.now soon).1 able
  have land := smooth.landTick_le more
  rw [BenchmarkConfig.landTick, BenchmarkConfig.linkTrip, due] at land
  rw [arrivalTick_eq smooth punctual.configured laden.now]
  omega

end Crossing.Punctual

namespace Simulation

variable {config : BenchmarkConfig} {limit clock : Nat} {travelling : List (Nat × LinkEvent)}
  {sim : Simulation FixedLatencyLink RecordedRequester RecordedMemory LinkEvent}
  {entry : EventEntry (SimulationEvent LinkEvent)}
  {rest : List (EventEntry (SimulationEvent LinkEvent))}

/-- Between two events of a run in which everything has happened by the timetable. -/
structure CrossesOnTime (config : BenchmarkConfig) (limit : Nat)
    (sim : Simulation FixedLatencyLink RecordedRequester RecordedMemory LinkEvent) (clock : Nat)
    (travelling : List (Nat × LinkEvent)) : Prop
    extends sim.Ticking clock (travelling.map LinkEvent.arrival) where
  punctual : Crossing.Punctual config sim.rig travelling clock clock
  queued : Crossing.Queued sim.rig travelling
  within : sim.now ≤ limit
  early : clock ≤ config.linkTicks
  unfinished : sim.finishedAt = none
  priority : sim.clock.priority = Priority.external

/-- The run ended when the last response arrived, and each response arrived when it was due. -/
structure CrossedOnTime (config : BenchmarkConfig) (limit : Nat)
    (sim : Simulation FixedLatencyLink RecordedRequester RecordedMemory LinkEvent) : Prop where
  idle : sim.rig.events.pending = []
  finished : sim.finishedAt = some config.linkTicks
  within : config.linkTicks ≤ limit
  stats : sim.rig.requester.peer.stats =
    .uniform config.linkTrip config.workload.numRequests config.workload.numRequests
  rejections : sim.rig.memory.peer.rejections = 0
  count : sim.rig.requester.receipts.length = config.workload.numRequests
  receipts : ∀ receipt ∈ sim.rig.requester.receipts,
    receipt.1 = receipt.2.createdAt + config.linkTrip

namespace CrossesOnTime

variable (onTime : CrossesOnTime config limit sim clock travelling)
  (pending : sim.rig.events.pending = entry :: rest) (within : entry.tick ≤ limit)
  (smooth : config.Smooth) {faults : Fault → Prop} (allows : Allows faults config.linkBound)
include onTime pending within smooth allows

theorem arrive_step {event : LinkEvent} (payload : entry.payload = .component event) :
    Gives faults (handle entry.payload
        { sim with rig := { sim.rig with events := sim.rig.events.after entry rest } })
      fun result => result.1 = none ∧ ∃ left, left.length < travelling.length ∧
        CrossesOnTime config limit result.2 clock left := by
  have awaits := onTime.awaits
  obtain ⟨left, split, queued⟩ := onTime.queued.fire pending
  have head : LinkEvent.ofEntry? entry = some (entry.tick, event) := by
    rw [LinkEvent.ofEntry?, payload]
  rw [head, Option.toList_some, List.singleton_append] at split
  subst split
  let before : Crossing := { sim.rig with events := sim.rig.events.after entry rest }
  have elapsed : sim.rig.now ≤ before.events.now := awaits.now_le pending
  have passed : Crossing.Punctual config before ((entry.tick, event) :: left) clock clock :=
    onTime.punctual.pass elapsed
  have fired : before.events.Awaits ((clock, .clock) :: left.map LinkEvent.arrival) := by
    refine awaits.fire pending ?_
    rw [payload]
    exact .swap _ _ _
  obtain ⟨next, handled, punctual, kept, events⟩ := passed.arrive smooth queued rfl
  have now : next.now = entry.tick := congrArg EventQueue.now events
  have soon : clock ≤ next.now + 1 :=
    Nat.le_trans onTime.soon (Nat.succ_le_succ (now ▸ elapsed))
  rw [payload]
  apply handle_of_timesWithin allows
  simp only [react, Intermediary.handle, before] at handled ⊢
  rw [handled]
  refine .ok ⟨⟨rfl, left, Nat.lt_succ_self _, ?_⟩, punctual.timesWithin smooth⟩
  exact {
    awaits := events ▸ fired
    soon := soon
    going := onTime.going
    punctual := punctual
    queued := kept
    within := Nat.le_trans (Nat.le_of_eq now) within
    early := onTime.early
    unfinished := onTime.unfinished
    priority := onTime.priority }

omit within smooth allows in
/-- The clock ticks after everything that arrives at its tick. -/
theorem laden (fires : (entry.tick, entry.payload) = (clock, SimulationEvent.clock)) :
    Crossing.Laden { sim.rig with events := sim.rig.events.after entry rest } travelling clock := by
  have awaits := onTime.awaits
  obtain ⟨rfl, payload⟩ := Prod.mk.inj fires
  obtain ⟨left, split, queued⟩ := onTime.queued.fire pending
  have none_arrives : LinkEvent.ofEntry? entry = none := by
    rw [LinkEvent.ofEntry?, payload]
  rw [none_arrives, Option.toList_none, List.nil_append] at split
  subst split
  exact { queued with
    now := rfl
    awaits := awaits.fire pending (.of_eq (by rw [payload]))
    late := Crossing.lt_arrival awaits onTime.queued.ranked pending payload }

omit within in
theorem turns (some_request : 0 < config.workload.numRequests)
    (fires : (entry.tick, entry.payload) = (clock, SimulationEvent.clock)) :
    Gives faults (Simulation.turns { sim.rig with events := sim.rig.events.after entry rest })
      fun result => result.1 = none ∧ ∃ later,
        Crossing.Punctual config result.2 later (clock + 1) (clock + 1) ∧
        Crossing.Laden result.2 later clock ∧ later.length ≤ travelling.length + 2 := by
  have laden := onTime.laden pending fires
  let before : Crossing := { sim.rig with events := sim.rig.events.after entry rest }
  have elapsed : sim.rig.now ≤ before.events.now := onTime.awaits.now_le pending
  have passed : Crossing.Punctual config before travelling clock clock :=
    onTime.punctual.pass elapsed
  have last := smooth.linkTicks_le some_request
  apply (Crossing.serveResponse_serves (passed.period smooth.toPositive) fun busy =>
    allows.of_le (Nat.le_trans (passed.reply_lands smooth laden busy) last)).bind
  intro served serves
  obtain ⟨between, answered, crossing, few⟩ := passed.serve smooth laden serves
  have far : Allows faults served.requester.peer.workload.reach := by
    rw [answered.workload]
    exact allows.of_le (Nat.le_max_left _ _)
  rw [answered.retry]
  apply (Crossing.issueRequest_issues answered.regular (answered.period smooth.toPositive) far
    fun packet source offers => allows.of_le (Nat.le_trans
      (answered.request_lands smooth crossing (Nat.le_succ _) offers) last)).mono
  rintro ⟨_, issued⟩ ⟨rfl, issues⟩
  obtain ⟨later, punctual, carrying, fewer⟩ := answered.issue smooth crossing issues
  exact ⟨rfl, later, punctual, carrying, by omega⟩

theorem tick_step (some_request : 0 < config.workload.numRequests)
    (fires : (entry.tick, entry.payload) = (clock, SimulationEvent.clock)) :
    Gives faults (handle entry.payload
        { sim with rig := { sim.rig with events := sim.rig.events.after entry rest } })
      fun result => result.1 = none ∧
        (CrossedOnTime config limit result.2 ∨ ∃ later, later.length ≤ travelling.length + 2 ∧
          CrossesOnTime config limit result.2 (clock + 1) later) := by
  have turned : Gives faults
      (Simulation.turns { sim.rig with events := sim.rig.events.after entry rest }) _ :=
    onTime.turns pending smooth allows some_request fires
  obtain ⟨rfl, payload⟩ := Prod.mk.inj fires
  rw [payload]
  apply handle_of_timesWithin allows
  apply tick_gives
  apply turned.mono
  rintro ⟨_, issued⟩ ⟨rfl, later, punctual, laden, few⟩
  simp only at punctual laden few
  refine ⟨rfl, ?_⟩
  have times := punctual.timesWithin smooth
  let after : Simulation FixedLatencyLink RecordedRequester RecordedMemory LinkEvent :=
    ⟨issued, sim.clock.occurred, sim.finishedAt⟩
  have now : after.now = entry.tick := laden.now
  have returned := punctual.returned smooth laden.late laden.now (Nat.le_succ _)
  cases finished : issued.requester.peer.isFinished with
  | true =>
    obtain ⟨issuedAll, responses, -, none, -⟩ := punctual.drained finished
    -- nothing is on the link, so this tick was the last event
    obtain rfl : later = [] := List.eq_nil_of_length_eq_zero none
    have last : entry.tick = config.linkTicks := by
      have reached := returned.past (config.workload.numRequests - 1) (by omega)
      rw [← BenchmarkConfig.linkTicks_eq] at reached
      exact Nat.le_antisymm onTime.early (Nat.le_of_lt_succ reached)
    have created : issued.requester.peer.stats.issued = issued.requester.peer.created :=
      congrArg TrafficStats.issued punctual.stats
    rw [finishOrContinue_of_finished finished]
    refine .ok ⟨⟨rfl, .inl {
      idle := List.map_eq_nil_iff.1 laden.awaits.agenda.eq_nil
      finished := congrArg some (now.trans last)
      within := last ▸ within
      stats := punctual.stats.trans (by rw [responses, ← created, issuedAll])
      rejections := punctual.rejections
      count := punctual.accounted.symm.trans responses
      receipts := punctual.receipts }⟩, times⟩
  | false =>
    have more : issued.requester.peer.stats.responses < config.workload.numRequests := by
      rw [RequestGenerator.isFinished_eq_false_iff, punctual.workload] at finished
      exact finished
    have early : entry.tick + 1 ≤ config.linkTicks :=
      Nat.le_trans (returned.next more)
        (smooth.strictMono_landTick.monotone (Nat.le_pred_of_lt more))
    have ticking := awaitingTick_ticking after laden.awaits onTime.going
    rw [now] at ticking
    have queued : Crossing.Queued after.awaitingTick.rig later := by
      rw [awaitingTick, show after.clock.priority = Priority.external from onTime.priority]
      exact laden.toQueued.awaitTick (Nat.le_succ _)
    have next : after.now + 1 ≤ config.linkBound := by
      have last := smooth.linkTicks_le some_request
      omega
    have free : after.clock.canSchedule = true :=
      RepeatingEvent.canSchedule_occurred onTime.going
    apply ((finishOrContinue_awaits finished free).weaken (allows.of_le next)).mono
    rintro _ rfl
    exact ⟨⟨rfl, .inr ⟨later, few, { ticking with
      punctual := { punctual with toOrdered := { punctual.toOrdered with } }
      queued := queued
      within := Nat.le_trans (Nat.le_of_eq now) within
      early := early
      unfinished := onTime.unfinished
      priority := onTime.priority }⟩⟩, { times with }⟩

end CrossesOnTime

/-- A run goes on by the timetable, or it ended by it. -/
def LinkKeepsTime (config : BenchmarkConfig) (limit measure : Nat)
    (sim : Simulation FixedLatencyLink RecordedRequester RecordedMemory LinkEvent) : Prop :=
  (∃ clock travelling, CrossesOnTime config limit sim clock travelling ∧
    3 * (limit + 1 - clock) + travelling.length ≤ measure) ∨ CrossedOnTime config limit sim

theorem linkKeepsTime_lowers {faults : Fault → Prop} (smooth : config.Smooth)
    (allows : Allows faults config.linkBound) (some_request : 0 < config.workload.numRequests)
    (limit : Nat) : Lowers faults limit (LinkKeepsTime config limit) := by
  rintro measure sim entry rest (⟨clock, travelling, onTime, enough⟩ | crossed) pending within
  · cases payload : entry.payload with
    | clock =>
      have fires : (entry.tick, entry.payload) = (clock, SimulationEvent.clock) := by
        rcases List.mem_cons.1 (onTime.awaits.fires pending) with fires | arrives
        · exact fires
        · obtain ⟨event, -, same⟩ := List.mem_map.1 arrives
          cases (congrArg Prod.snd same).trans payload
      obtain ⟨rfl, -⟩ := Prod.mk.inj fires
      rw [← payload]
      apply (onTime.tick_step pending within smooth allows some_request fires).mono
      rintro result ⟨none, crossed | ⟨later, few, next⟩⟩
      · exact ⟨none, 0, by omega, .inr crossed⟩
      · exact ⟨none, _, by omega, .inl ⟨_, later, next, Nat.le_refl _⟩⟩
    | component event =>
      rw [← payload]
      apply (onTime.arrive_step pending within smooth allows payload).mono
      rintro result ⟨none, left, fewer, next⟩
      exact ⟨none, _, by omega, .inl ⟨_, left, next, Nat.le_refl _⟩⟩
  · rw [crossed.idle] at pending
    cases pending

/-- If events are left when the budget is spent, then the last response is not due yet. -/
theorem CrossesOnTime.stalled (onTime : CrossesOnTime config limit sim clock travelling)
    (idle : sim.rig.events.takeDue limit = none) :
    limit < config.linkTicks ∧ sim.summary = .error (.stalled limit) := by
  obtain ⟨beyond, stalled⟩ :=
    stalled_of_idle onTime.awaits onTime.soon onTime.within onTime.unfinished idle
  exact ⟨Nat.lt_of_lt_of_le beyond onTime.early, stalled⟩

/-- A run ends by the timetable, or before the last response is due. -/
def LinkRuns (config : BenchmarkConfig) (limit : Nat)
    (final : Simulation FixedLatencyLink RecordedRequester RecordedMemory LinkEvent) : Prop :=
  limit < config.linkTicks ∧ final.summary = .error (.stalled limit) ∨
    CrossedOnTime config limit final

theorem link_run (smooth : config.Smooth) (some_request : 0 < config.workload.numRequests)
    (limit : Nat) : Gives (Exceeds config.linkBound) (start (FixedLatencyLink.fresh config.link)
        (Recorded.blank (RequestGenerator.fresh config.workload))
        (Recorded.blank (MemoryModel.idle config.memory)) >>= run limit)
      fun result => result.1 = result.2.summary ∧ LinkRuns config limit result.2 := by
  let rig : Crossing := .assemble (FixedLatencyLink.fresh config.link)
    (Recorded.blank (RequestGenerator.fresh config.workload))
    (Recorded.blank (MemoryModel.idle config.memory))
  obtain ⟨travelling, ordered, queued⟩ := (begun_crosses smooth.toPositive).inOrder
  obtain rfl : travelling = [] := queued.listed.symm
  have ticking : (begun rig).Ticking 0 [] := begun_ticking EventQueue.awaits_empty rfl
  have opened : CrossesOnTime config limit (begun rig) 0 [] := { ticking with
    punctual := { ordered with
      accounted := rfl
      rejections := rfl
      stats := by
        change ({} : TrafficStats) = .uniform config.linkTrip 0 0
        rw [TrafficStats.uniform, Nat.zero_mul]
        rfl
      created := .zero _ _
      sent := .zero _ _
      landed := nofun
      onWay := nofun
      inService := nofun
      receipts := nofun }
    queued := queued
    within := Nat.zero_le _
    early := Nat.zero_le _
    unfinished := rfl
    priority := rfl }
  have enough : 3 * (limit + 1) < (begun rig).rig.events.horizon limit := by
    rw [begun_horizon EventQueue.awaits_empty rfl, List.length_nil]
    omega
  have ready : Intermediary.start (.assemble (FixedLatencyLink.fresh config.link)
      (Recorded.blank (RequestGenerator.fresh config.workload))
      (Recorded.blank (MemoryModel.idle config.memory))) = .ok rig := rfl
  rw [start_eq_begun ready rfl, ok_bind]
  have lowers : Lowers (Exceeds config.linkBound) limit (LinkKeepsTime config limit) :=
    linkKeepsTime_lowers smooth .exceeds some_request limit
  apply lowers.run ?_ (.inl ⟨0, [], opened, Nat.le_refl _⟩) enough
  rintro measure sim (⟨clock, travelling, onTime, -⟩ | crossed) idle
  · exact .inl (onTime.stalled idle)
  · exact .inr crossed

theorem CrossedOnTime.summary_eq (crossed : CrossedOnTime config limit sim)
    (some_request : 0 < config.workload.numRequests) : sim.summary = .ok {
      component := "fixed_latency_link"
      ticks := config.linkTicks
      requester := {
        issued := config.workload.numRequests
        responses := config.workload.numRequests
        totalRoundTrip := config.workload.numRequests * config.linkTrip
        maxRoundTrip := config.linkTrip }
      memoryRejections := 0 } := by
  simp only [summary, crossed.finished, TrafficSource.stats, ResponseSource.rejections,
    crossed.stats, crossed.rejections, TrafficStats.uniform, Nat.ne_of_gt some_request, ↓reduceIte]
  rfl

/-- A link of two cycles in front of a slow memory, for a requester that sends three requests
ahead. -/
def twoCycles : BenchmarkConfig where
  link := { latency := 2, clockPeriod := 1 }
  memory := { accessLatency := 6 }
  workload := { numRequests := 11, maxOutstanding := 3 }

end Simulation

end GatedMemory
