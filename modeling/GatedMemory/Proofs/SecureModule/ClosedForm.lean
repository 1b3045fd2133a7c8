import GatedMemory.Proofs.Benchmark
import GatedMemory.Proofs.SecureModule.Punctual

set_option autoImplicit false

namespace GatedMemory

/-- Ticks that a run takes in which everything happens by the timetable. -/
def BenchmarkConfig.moduleTicks (config : BenchmarkConfig) : Nat :=
  (config.workload.numRequests - 1) / config.issueBatch * config.roundTrip +
    (config.workload.numRequests - 1) % config.issueBatch + config.roundTrip

/-- No number that comes up in such a run is larger: neither what the addresses are computed from,
nor the sum of the round trips, nor the edge after the last response. -/
def BenchmarkConfig.moduleBound (config : BenchmarkConfig) : Nat :=
  max config.workload.reach
    (max (config.workload.numRequests * config.roundTrip) (config.moduleTicks + 1))

namespace BenchmarkConfig

variable {config : BenchmarkConfig} {number : Nat}

theorem moduleTicks_eq (config : BenchmarkConfig) :
    config.moduleTicks = config.returnTick (config.workload.numRequests - 1) := rfl

theorem Positive.returnTick_le (positive : config.Positive)
    (inside : number < config.workload.numRequests) :
    config.returnTick number ≤ config.moduleTicks :=
  positive.strictMono_returnTick.monotone (Nat.le_pred_of_lt inside)

theorem moduleTicks_lt (config : BenchmarkConfig) : config.moduleTicks < config.moduleBound :=
  Nat.le_trans (Nat.le_max_right _ _) (Nat.le_max_right _ _)

end BenchmarkConfig

namespace Pipeline.Punctual

variable {config : BenchmarkConfig} {pipe : Pipeline} {tickets : List Ticket}
  {others : List (Nat × SimulationEvent SecureEvent)}
  {tick issuing forwarding serving delivering : Nat}

theorem timesWithin
    (punctual : Punctual config pipe tickets others issuing forwarding serving delivering)
    (positive : config.Positive) : pipe.TimesWithin config.moduleBound := by
  have bounded := punctual.created.inside
  constructor
  · rw [punctual.stats]
    exact Nat.le_trans (Nat.mul_le_mul_right _ punctual.returned.inside)
      (Nat.le_trans (Nat.le_max_left _ _) (Nat.le_max_right _ _))
  · intro entry member
    have inside : entry.2.id < pipe.requester.peer.created := by
      have onWay : entry.2.id ∈ journey pipe :=
        List.mem_map_of_mem (List.mem_append_left _ (List.mem_append_left _
          (List.mem_append_right _ (List.mem_map_of_mem member))))
      rw [punctual.order] at onWay
      exact List.mem_range.1 onWay
    have returns := positive.returnTick_le
      (show entry.2.id < config.workload.numRequests by omega)
    have ticks := config.moduleTicks_lt
    rw [(punctual.served entry member).2]
    rw [BenchmarkConfig.returnTick_eq] at returns
    omega

theorem check_ends
    (punctual : Punctual config pipe tickets others tick (tick + 1) (tick + 1) (tick + 1))
    (uncongested : config.Uncongested) (now : pipe.now = tick) {packet : Packet}
    {source : RequestGenerator} {cycles : Nat}
    (offers : pipe.requester.peer.Offers pipe.now packet source)
    (policy : pipe.component.config.holdCycles packet.command.kind = some cycles) :
    Clock.edge pipe.now cycles pipe.component.config.clockPeriod ≤ config.moduleTicks := by
  obtain ⟨able, -⟩ := offers.created_of_empty punctual.held
  obtain ⟨more, due⟩ := (punctual.canCreate_iff uncongested).1 able
  have returns := uncongested.toPositive.returnTick_le more
  rw [punctual.configured] at policy
  rw [punctual.configured, uncongested.everyTick, Clock.edge_of_dvd Nat.one_pos (Nat.one_dvd _),
    uncongested.holdCycles_eq policy, Nat.mul_one]
  rw [BenchmarkConfig.returnTick, BenchmarkConfig.roundTrip, due] at returns
  omega

end Pipeline.Punctual

namespace Simulation

/-- Between two events of a run in which everything has happened by the timetable. The clock comes
next at `clock`, and the driver at the same tick before it, or one tick later. -/
structure OnTime (config : BenchmarkConfig) (limit : Nat)
    (sim : Simulation SecureModule RecordedRequester RecordedMemory SecureEvent)
    (clock edge : Nat) (tickets : List Ticket) : Prop where
  punctual : Pipeline.Punctual config sim.rig tickets
    [(clock, .clock), (edge, .component .edge)] clock edge clock edge
  turn : edge = clock ∨ edge = clock + 1
  soon : clock ≤ sim.now + 1
  within : sim.now ≤ limit
  early : clock ≤ config.moduleTicks
  unfinished : sim.finishedAt = none
  going : sim.clock.stopped = false
  priority : sim.clock.priority = Priority.external
  driven : Pipeline.Driven sim.rig

/-- The run ended when the last response was due, and each response returned when it was due. -/
structure Arrived (config : BenchmarkConfig) (limit : Nat)
    (sim : Simulation SecureModule RecordedRequester RecordedMemory SecureEvent) : Prop where
  idle : sim.rig.events.pending = []
  finished : sim.finishedAt = some config.moduleTicks
  within : config.moduleTicks ≤ limit
  stats : sim.rig.requester.peer.stats =
    config.statsAfter config.workload.numRequests config.workload.numRequests
  rejections : sim.rig.memory.peer.rejections = 0
  count : sim.rig.requester.receipts.length = config.workload.numRequests
  receipts : ∀ receipt ∈ sim.rig.requester.receipts,
    receipt.1 = receipt.2.createdAt + config.roundTrip

variable {config : BenchmarkConfig} {limit clock edge : Nat} {tickets : List Ticket}
  {sim : Simulation SecureModule RecordedRequester RecordedMemory SecureEvent}
  {entry : EventEntry (SimulationEvent SecureEvent)}
  {rest : List (EventEntry (SimulationEvent SecureEvent))}

namespace OnTime

variable (onTime : OnTime config limit sim clock edge tickets)
  (pending : sim.rig.events.pending = entry :: rest) (within : entry.tick ≤ limit)
  (uncongested : config.Uncongested) {faults : Fault → Prop}
  (allows : Allows faults config.moduleBound)
include onTime pending within uncongested allows

theorem check_step {ticket : Ticket} (waits : ticket ∈ sim.rig.component.gate.unready tickets)
    (completes : ticket.completion Pipeline.checkEvent = (entry.tick, entry.payload)) :
    Gives faults (handle entry.payload
        { sim with rig := { sim.rig with events := sim.rig.events.after entry rest } })
      fun result => result.1 = none ∧ result.2.rig.events.size < sim.rig.events.size ∧
        OnTime config limit result.2 clock edge tickets := by
  have passed : sim.now ≤ entry.tick := onTime.punctual.timed.awaits.now_le pending
  have size := EventQueue.size_after pending
  have payload : entry.payload = .component (.checkOver ticket.slot) :=
    (congrArg Prod.snd completes).symm
  have times := onTime.punctual.timesWithin uncongested.toPositive
  rw [payload]
  apply handle_of_timesWithin allows
  refine .ok ⟨⟨rfl, Nat.lt_of_succ_le (Nat.le_of_eq size), ?_⟩, { times with }⟩
  exact { onTime with
    punctual := onTime.punctual.check pending waits completes
    soon := Nat.le_trans onTime.soon (Nat.succ_le_succ passed)
    within := within
    driven := { onTime.driven.fire pending with } }

theorem edge_step
    (fires : (entry.tick, entry.payload) = (edge, SimulationEvent.component SecureEvent.edge)) :
    Gives faults (handle entry.payload
        { sim with rig := { sim.rig with events := sim.rig.events.after entry rest } })
      fun result => result.1 = none ∧ result.2.rig.events.size = sim.rig.events.size ∧
        ∃ later, OnTime config limit result.2 clock (edge + 1) later := by
  obtain ⟨rfl, payload⟩ := Prod.mk.inj fires
  have late := onTime.driven.lt_readyAt onTime.punctual.timed pending payload
  -- the clock ticks at this edge, after the driver
  obtain rfl : clock = entry.tick := by
    have awaits := onTime.punctual.timed.awaits
    have coming : (clock, SimulationEvent.clock) ∈ sim.rig.events.agenda :=
      awaits.agenda.mem_iff.2 List.mem_cons_self
    have first := EventQueue.first_le awaits.sound pending coming
    have turn := onTime.turn
    simp only at first
    omega
  let before : Pipeline := { sim.rig with events := sim.rig.events.after entry rest }
  have split : [(entry.tick, .clock), (entry.tick, .component .edge)].Perm
      ((entry.tick, entry.payload) :: [(entry.tick, .clock)]) := by
    rw [payload]
    exact .swap _ _ _
  have fired : Pipeline.Punctual config before tickets [(entry.tick, .clock)]
      entry.tick entry.tick entry.tick entry.tick :=
    onTime.punctual.reschedule (onTime.punctual.timed.fire pending split) _
  obtain ⟨later, punctual⟩ := fired.edgeWork uncongested rfl late
  have events : (SecureModule.edgeWork before).events = sim.rig.events.after entry rest :=
    SecureModule.edgeWork_events before
  have driver := SecureModule.edgeWork_driver before
  rw [payload]
  apply handle_of_timesWithin allows
  rw [react_edge]
  change Gives faults ((SecureModule.scheduleEdge (SecureModule.edgeWork before)).map _) _
  generalize SecureModule.edgeWork before = worked at punctual events driver ⊢
  have now : worked.now = entry.tick := congrArg EventQueue.now events
  have next : Clock.edge worked.now 1 worked.component.config.clockPeriod = entry.tick + 1 := by
    rw [punctual.configured, uncongested.everyTick,
      Clock.edge_of_dvd Nat.one_pos (Nat.one_dvd _), now]
  have absent : ∀ event ∈ worked.events.agenda, event.2 ≠ .component SecureEvent.edge := by
    intro event member
    rw [punctual.timed.awaits.agenda.mem_iff, List.mem_append, List.mem_singleton] at member
    rcases member with rfl | member
    · exact nofun
    · obtain ⟨ticket, -, rfl⟩ := List.mem_map.1 member
      exact nofun
  obtain ⟨free, driven, size⟩ := onTime.driven.edge pending events driver absent
  have awaiting := punctual.timed.schedule (Nat.le_succ_of_le (Nat.le_of_eq now))
    worked.component.driver.priority (SimulationEvent.component SecureEvent.edge)
  have soon : Clock.edge worked.now 1 worked.component.config.clockPeriod ≤
      config.moduleBound := by
    have early := onTime.early
    have ticks := config.moduleTicks_lt
    omega
  have times := punctual.timesWithin uncongested.toPositive
  apply ((SecureModule.scheduleEdge_awaits punctual.period free).weaken (allows.of_le soon)).map
  rintro _ rfl
  rw [SecureModule.awaitingEdge, next] at driven size ⊢
  refine ⟨⟨rfl, size, later, ?_⟩, { times with }⟩
  exact {
    punctual := punctual.reschedule (awaiting.reorder (.swap _ _ _)) _
    turn := .inr rfl
    soon := Nat.le_succ_of_le (Nat.le_of_eq now.symm)
    within := Nat.le_trans (Nat.le_of_eq now) within
    early := onTime.early
    unfinished := onTime.unfinished
    going := onTime.going
    priority := onTime.priority
    driven := driven }

omit within uncongested allows in
/-- The clock ticks after the edge of its tick, and the next edge follows. -/
theorem edge_eq (fires : (entry.tick, entry.payload) = (clock, SimulationEvent.clock)) :
    edge = clock + 1 := by
  obtain ⟨rfl, payload⟩ := Prod.mk.inj fires
  have later := onTime.driven.clock_lt_edge pending onTime.punctual.timed.awaits
    (List.mem_cons_of_mem _ List.mem_cons_self) payload
  have turn := onTime.turn
  omega

omit within in
theorem turns (fires : (entry.tick, entry.payload) = (clock, SimulationEvent.clock)) :
    Gives faults (Simulation.turns { sim.rig with events := sim.rig.events.after entry rest })
      fun result => result.1 = none ∧ ∃ later,
        Pipeline.Punctual config result.2 later [(clock + 1, .component .edge)]
          (clock + 1) (clock + 1) (clock + 1) (clock + 1) ∧
        result.2.now = clock ∧ Pipeline.Driven result.2 ∧
        result.2.events.size ≤ sim.rig.events.size := by
  have size := EventQueue.size_after pending
  obtain rfl := onTime.edge_eq pending fires
  obtain ⟨rfl, payload⟩ := Prod.mk.inj fires
  let before : Pipeline := { sim.rig with events := sim.rig.events.after entry rest }
  have fired : Pipeline.Punctual config before tickets [(entry.tick + 1, .component .edge)]
      entry.tick (entry.tick + 1) entry.tick (entry.tick + 1) :=
    onTime.punctual.reschedule
      (onTime.punctual.timed.fire pending (.of_eq (by rw [payload]))) _
  apply (Pipeline.serveResponse_serves before).bind
  intro served serves
  have sent := fired.serve uncongested rfl serves
  have now : served.now = entry.tick := congrArg EventQueue.now serves.frame.2.1
  have retries := Pipeline.passRetry_retries sent.plain
  have again := sent.retry retries
  rw [again] at retries ⊢
  have far : Allows faults served.requester.peer.workload.reach := by
    rw [sent.workload]
    exact allows.of_le (Nat.le_max_left _ _)
  apply (Pipeline.issueRequest_sends sent.regular sent.period far
    fun packet source cycles offers policy => allows.of_le (Nat.le_trans
      (sent.check_ends uncongested now offers policy) (Nat.le_of_lt config.moduleTicks_lt))).mono
  rintro ⟨_, issued⟩ ⟨rfl, _, _, _, -, sends⟩
  have issues := sends.issues
  obtain ⟨later, punctual⟩ := sent.issue uncongested now issues
  obtain ⟨driven, more⟩ := (onTime.driven.fire pending).turns serves retries issues
  exact ⟨rfl, later, punctual, issues.frame.2.2.trans now, driven,
    Nat.le_trans more (Nat.le_of_eq size)⟩

theorem clock_step (some_request : 0 < config.workload.numRequests)
    (fires : (entry.tick, entry.payload) = (clock, SimulationEvent.clock)) :
    Gives faults (handle entry.payload
        { sim with rig := { sim.rig with events := sim.rig.events.after entry rest } })
      fun result => result.1 = none ∧
        (Arrived config limit result.2 ∨
          result.2.rig.events.size ≤ sim.rig.events.size + 1 ∧
          ∃ later, OnTime config limit result.2 (clock + 1) edge later) := by
  have positive := uncongested.toPositive
  have turned : Gives faults
      (Simulation.turns { sim.rig with events := sim.rig.events.after entry rest }) _ :=
    onTime.turns pending uncongested allows fires
  obtain rfl := onTime.edge_eq pending fires
  obtain ⟨rfl, payload⟩ := Prod.mk.inj fires
  rw [payload]
  apply handle_of_timesWithin allows
  apply tick_gives
  apply turned.mono
  rintro ⟨_, issued⟩ ⟨rfl, later, punctual, now, driven, size⟩
  simp only at punctual now driven size
  refine ⟨rfl, ?_⟩
  have times := punctual.timesWithin positive
  let after : Simulation SecureModule RecordedRequester RecordedMemory SecureEvent :=
    ⟨issued, sim.clock.occurred, sim.finishedAt⟩
  cases finished : issued.requester.peer.isFinished with
  | true =>
    obtain ⟨responses, created, rfl⟩ := punctual.drained finished
    have last : entry.tick = config.moduleTicks := by
      have reached := punctual.returned.past (config.workload.numRequests - 1) (by omega)
      rw [← BenchmarkConfig.moduleTicks_eq] at reached
      exact Nat.le_antisymm onTime.early (Nat.le_of_lt_succ reached)
    rw [finishOrContinue_of_finished finished]
    refine .ok ⟨⟨rfl, .inl {
      idle := ?_
      finished := congrArg some (now.trans last)
      within := last ▸ within
      stats := punctual.stats.trans (by rw [responses, created])
      rejections := punctual.rejections
      count := ?_
      receipts := punctual.receipts }⟩, { times with }⟩
    · -- the driver's edge was the only event left
      refine List.eq_nil_iff_forall_not_mem.2 fun left member => ?_
      obtain ⟨present, apart⟩ := driven.drives.mem_halt member
      have coming := punctual.timed.awaits.agenda.mem_iff.1 (List.mem_map_of_mem present)
      rw [Gate.unready, List.filter_nil, List.map_nil, List.append_nil, List.mem_singleton]
        at coming
      exact apart (congrArg Prod.snd coming)
    · change issued.requester.receipts.length = _
      rw [← Recorded.length_taken, ← punctual.answered, responses]
  | false =>
    have more : issued.requester.peer.stats.responses < config.workload.numRequests := by
      rw [RequestGenerator.isFinished_eq_false_iff, punctual.workload] at finished
      exact finished
    have early : entry.tick + 1 ≤ config.moduleTicks :=
      Nat.le_trans (punctual.returned.next more)
        (positive.strictMono_returnTick.monotone (Nat.le_pred_of_lt more))
    have apart := SimulationEvent.clock_ne_component SecureEvent.edge
    have afterNow : after.now = entry.tick := now
    have scheduled : issued.component.gate.Timed Pipeline.checkEvent after.awaitingTick.rig.events
        later [(after.now + 1, .clock), (entry.tick + 1, .component .edge)] :=
      punctual.timed.schedule (Nat.le_succ _) _ _
    rw [afterNow] at scheduled
    have next : after.now + 1 ≤ config.moduleBound := by
      have ticks := config.moduleTicks_lt
      omega
    have free : after.clock.canSchedule = true :=
      RepeatingEvent.canSchedule_occurred onTime.going
    apply ((finishOrContinue_awaits finished free).weaken (allows.of_le next)).mono
    rintro _ rfl
    refine ⟨⟨rfl, .inr ⟨?_, later, {
      punctual := punctual.reschedule scheduled _
      turn := .inl rfl
      soon := Nat.le_of_eq (congrArg Nat.succ now.symm)
      within := Nat.le_trans (Nat.le_of_eq now) within
      early := early
      unfinished := onTime.unfinished
      going := onTime.going
      priority := onTime.priority
      driven := driven.schedule onTime.priority apart _ }⟩⟩, { times with }⟩
    exact Nat.le_trans (Nat.le_of_eq EventQueue.size_scheduled) (Nat.succ_le_succ size)

end OnTime

/-- A run goes on by the timetable, or it ended by it. -/
def KeepsTime (config : BenchmarkConfig) (limit measure : Nat)
    (sim : Simulation SecureModule RecordedRequester RecordedMemory SecureEvent) : Prop :=
  (∃ clock edge tickets, OnTime config limit sim clock edge tickets ∧
    3 * (limit + 1 - clock) + (limit + 1 - edge) + sim.rig.events.size ≤ measure) ∨
    Arrived config limit sim

theorem keepsTime_lowers {faults : Fault → Prop} (uncongested : config.Uncongested)
    (allows : Allows faults config.moduleBound) (some_request : 0 < config.workload.numRequests)
    (limit : Nat) : Lowers faults limit (KeepsTime config limit) := by
  rintro measure sim entry rest (⟨clock, edge, tickets, onTime, enough⟩ | arrived) pending within
  · rcases onTime.punctual.timed.fires pending with other | ⟨ticket, waits, completes⟩
    · rcases List.mem_cons.1 other with fires | other
      · obtain ⟨rfl, -⟩ := Prod.mk.inj fires
        apply (onTime.clock_step pending within uncongested allows some_request fires).mono
        rintro result ⟨none, arrived | ⟨size, later, next⟩⟩
        · exact ⟨none, 0, by omega, .inr arrived⟩
        · exact ⟨none, _, by omega, .inl ⟨_, _, later, next, Nat.le_refl _⟩⟩
      · have fires := List.mem_singleton.1 other
        obtain ⟨rfl, -⟩ := Prod.mk.inj fires
        apply (onTime.edge_step pending within uncongested allows fires).mono
        rintro result ⟨none, size, later, next⟩
        exact ⟨none, _, by omega, .inl ⟨_, _, later, next, Nat.le_refl _⟩⟩
    · apply (onTime.check_step pending within uncongested allows waits completes).mono
      rintro result ⟨none, size, next⟩
      exact ⟨none, _, by omega, .inl ⟨_, _, _, next, Nat.le_refl _⟩⟩
  · rw [arrived.idle] at pending
    cases pending

/-- If events are left when the budget is spent, then the last response is not due yet. -/
theorem OnTime.stalled (onTime : OnTime config limit sim clock edge tickets)
    (idle : sim.rig.events.takeDue limit = none) :
    limit < config.moduleTicks ∧ sim.summary = .error (.stalled limit) := by
  obtain ⟨beyond, stalled⟩ := stalled_of_idle onTime.punctual.timed.awaits onTime.soon
    onTime.within onTime.unfinished idle
  exact ⟨Nat.lt_of_lt_of_le beyond onTime.early, stalled⟩

theorem opening_onTime (uncongested : config.Uncongested) (limit : Nat) :
    OnTime config limit (opening config.secureModule
      (Recorded.blank (RequestGenerator.fresh config.workload))
      (Recorded.blank (MemoryModel.idle config.memory))) 0 1 [] := by
  have assembled := Pipeline.Punctual.assemble uncongested.toWorkable
  have edge : Clock.edge 0 1 config.secureModule.clockPeriod = 1 := by
    rw [uncongested.everyTick]
    rfl
  have driven := Pipeline.opening_driven config.secureModule
    (Recorded.blank (RequestGenerator.fresh config.workload))
    (Recorded.blank (MemoryModel.idle config.memory))
  let rig : Pipeline := SecureModule.awaitingEdge (.assemble
    (SecureModule.fresh config.secureModule)
    (Recorded.blank (RequestGenerator.fresh config.workload))
    (Recorded.blank (MemoryModel.idle config.memory)))
  have awaiting : rig.component.gate.Timed Pipeline.checkEvent rig.events []
      [(Clock.edge 0 1 config.secureModule.clockPeriod, .component .edge)] :=
    assembled.timed.schedule (Nat.zero_le _) _ _
  rw [edge] at awaiting
  have apart := SimulationEvent.clock_ne_component SecureEvent.edge
  exact {
    punctual := assembled.reschedule (awaiting.schedule (Nat.le_refl 0) _ _) _
    turn := .inr rfl
    soon := Nat.zero_le _
    within := Nat.zero_le _
    early := Nat.zero_le _
    unfinished := rfl
    going := rfl
    priority := rfl
    driven := driven.schedule rfl apart 0 }

/-- A run ends by the timetable, or before the last response is due. -/
def ModuleRuns (config : BenchmarkConfig) (limit : Nat)
    (final : Simulation SecureModule RecordedRequester RecordedMemory SecureEvent) : Prop :=
  limit < config.moduleTicks ∧ final.summary = .error (.stalled limit) ∨
    Arrived config limit final

theorem module_run (uncongested : config.Uncongested)
    (some_request : 0 < config.workload.numRequests) (limit : Nat) :
    Gives (Exceeds config.moduleBound) (start (SecureModule.fresh config.secureModule)
        (Recorded.blank (RequestGenerator.fresh config.workload))
        (Recorded.blank (MemoryModel.idle config.memory)) >>= run limit)
      fun result => result.1 = result.2.summary ∧ ModuleRuns config limit result.2 := by
  have opened := opening_onTime uncongested limit
  have edge : Clock.edge 0 1 config.secureModule.clockPeriod ≤ config.moduleBound := by
    rw [uncongested.everyTick]
    exact Nat.le_trans (Nat.succ_le_succ (Nat.zero_le _)) config.moduleTicks_lt
  have starts := start_opening uncongested.period
    (Recorded.blank (RequestGenerator.fresh config.workload))
    (Recorded.blank (MemoryModel.idle config.memory))
  have lowers : Lowers (Exceeds config.moduleBound) limit (KeepsTime config limit) :=
    keepsTime_lowers uncongested .exceeds some_request limit
  apply (starts.weaken (Allows.exceeds.of_le edge)).bind
  rintro _ rfl
  apply lowers.run ?_ (.inl ⟨0, 1, [], opened, Nat.le_refl _⟩)
  · have size := opened.punctual.timed.awaits.size_eq
    have now : (opening config.secureModule
        (Recorded.blank (RequestGenerator.fresh config.workload))
        (Recorded.blank (MemoryModel.idle config.memory))).rig.events.now = 0 := rfl
    simp only [List.length_append, List.length_cons, List.length_nil, Gate.unready,
      List.filter_nil, List.map_nil] at size
    rw [EventQueue.horizon, now, size]
    omega
  · rintro measure sim (⟨clock, edge, tickets, onTime, -⟩ | arrived) idle
    · exact .inl (onTime.stalled idle)
    · exact .inr arrived

theorem Arrived.summary_eq (arrived : Arrived config limit sim)
    (some_request : 0 < config.workload.numRequests) : sim.summary = .ok {
      component := "secure_module"
      ticks := config.moduleTicks
      requester := {
        issued := config.workload.numRequests
        responses := config.workload.numRequests
        totalRoundTrip := config.workload.numRequests * config.roundTrip
        maxRoundTrip := config.roundTrip }
      memoryRejections := 0 } := by
  simp only [summary, arrived.finished, TrafficSource.stats, ResponseSource.rejections,
    arrived.stats, arrived.rejections, BenchmarkConfig.statsAfter, Nat.ne_of_gt some_request,
    ↓reduceIte]
  rfl

/-- Short checks in front of a slow memory, for a requester that sends four requests ahead. -/
def shortChecks : BenchmarkConfig where
  secureModule := { commonLatency := 0, readLatency := 1, writeLatency := 1 }
  memory := { accessLatency := 10 }
  workload := { numRequests := 20, maxOutstanding := 4 }

end Simulation

end GatedMemory
