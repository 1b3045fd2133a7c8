import GatedMemory.Proofs.Reports
import GatedMemory.Proofs.Schedule
import GatedMemory.Proofs.SecureModule.Order

set_option autoImplicit false

namespace GatedMemory

def SecureEvent.rank : SimulationEvent SecureEvent → Int :=
  SimulationEvent.rank SecureEvent.priority

def SecureEvent.checkEnd (check : Nat × SlotId) : Nat × SimulationEvent SecureEvent :=
  (check.1, .component (.checkOver check.2))

namespace Pipeline

variable {config : BenchmarkConfig} {pipe next : Pipeline} {issuing answering : Nat}

/-- Responses that have left memory: those that were taken, and those that are queued. -/
def sent (pipe : Pipeline) : Nat :=
  pipe.requester.peer.stats.responses + pipe.component.gate.responses.items.length

/-- Neither the requester nor memory is ahead of the schedule. -/
structure Follows (config : BenchmarkConfig) (pipe : Pipeline) (issuing answering : Nat) : Prop
    extends Ordered pipe where
  creates : pipe.requester.peer.Creates config issuing
  lags : pipe.memory.Lags config pipe.sent answering

namespace Follows

theorem numbers (follows : Follows config pipe issuing answering)
    (queued : pipe.component.gate.requests.items ≠ []) :
    pipe.sent + pipe.memory.peer.serving.length < pipe.requester.peer.created := by
  have order := congrArg List.length follows.order
  have some_request := List.length_pos_iff.2 queued
  simp only [journey, List.length_map, List.length_append, List.length_range,
    ← follows.answered] at order
  unfold sent
  omega

theorem forward (follows : Follows config pipe issuing answering) (positive : config.Positive)
    (order : issuing ≤ answering) (soon : answering ≤ pipe.now + 1)
    {outcome : Gate × RecordedMemory}
    (forwards : SecureModule.Forwards pipe.component.gate pipe.memory pipe.now outcome) :
    Follows config (pipe.withMemory outcome) issuing answering := by
  have ordered := follows.toOrdered.forward forwards
  cases forwards with
  | idle => exact { follows with }
  | @taken head rest answer unblocked items ready room answered =>
    have number := follows.numbers (items ▸ List.cons_ne_nil _ _)
    have created := follows.creates.created
    have window := follows.creates.window
    have sent : pipe.sent = pipe.requester.peer.stats.responses +
      pipe.component.gate.responses.items.length := rfl
    exact { ordered with
      creates := follows.creates
      lags := follows.lags.accept positive room (by omega) (by omega) soon head.packet answer }
  | refused =>
    exact { ordered with creates := follows.creates, lags := follows.lags.congr rfl rfl }

theorem deliver (follows : Follows config pipe issuing answering)
    {outcome : Gate × RecordedRequester}
    (delivers : SecureModule.Delivers pipe.component.gate pipe.requester pipe.now outcome) :
    Follows config (pipe.withRequester outcome) issuing answering := by
  have ordered := follows.toOrdered.deliver delivers
  cases delivers with
  | idle => exact { follows with }
  | @taken head rest unblocked items =>
    have lags := follows.lags
    rw [sent, items, List.length_cons, Nat.add_comm rest.length, ← Nat.add_assoc] at lags
    exact { ordered with creates := follows.creates.receive head pipe.now, lags := lags }

theorem settleRequestRetry (follows : Follows config pipe issuing answering) :
    Follows config (SecureModule.settleRequestRetry pipe) issuing answering := by
  have ordered := follows.toOrdered.settleRequestRetry
  cases owed : pipe.component.gate.towardRequester.owesRetry with
  | false =>
    rw [SecureModule.settleRequestRetry_of_idle owed]
    exact follows
  | true =>
    rw [SecureModule.settleRequestRetry_of_owed owed] at ordered ⊢
    exact { ordered with creates := { follows.creates with }, lags := follows.lags }

theorem settleResponseRetry (follows : Follows config pipe issuing answering) :
    Follows config (SecureModule.settleResponseRetry pipe) issuing answering := by
  have ordered := follows.toOrdered.settleResponseRetry
  cases owed : pipe.component.gate.towardMemory.owesRetry with
  | false =>
    rw [SecureModule.settleResponseRetry_of_idle owed]
    exact follows
  | true =>
    rw [SecureModule.settleResponseRetry_of_owed owed] at ordered ⊢
    exact { ordered with creates := follows.creates, lags := follows.lags.congr rfl rfl }

theorem edgeWork (follows : Follows config pipe issuing answering) (positive : config.Positive)
    (order : issuing ≤ answering) (soon : answering ≤ pipe.now + 1) :
    Follows config (SecureModule.edgeWork pipe) issuing answering := by
  have fired : Follows config (SecureModule.edgeFired pipe) issuing answering :=
    { follows with toOrdered := { follows.toOrdered with } }
  have sent := fired.forward positive order soon
    (SecureModule.sendRequest_forwards fired.plain)
  rw [← SecureModule.drainRequest_eq] at sent
  have delivered := sent.deliver SecureModule.sendResponse_delivers
  rw [← SecureModule.drainResponse_eq] at delivered
  exact delivered.settleRequestRetry.settleResponseRetry

theorem serve (follows : Follows config pipe pipe.now pipe.now) (positive : config.Positive)
    (serves : pipe.Serves next) : Follows config next pipe.now (pipe.now + 1) := by
  have ordered := follows.toOrdered.serve serves
  cases serves with
  | idle => exact { follows with lags := follows.lags.wait }
  | @admitted due answer rest unblocked serving ready room =>
    have lags := follows.lags.send positive serving ready
    rw [sent, Nat.add_assoc] at lags
    refine { ordered with creates := follows.creates, lags := ?_ }
    simp only [sent, withMemory, Gate.withResponse, List.length_append, List.length_singleton]
    exact lags
  | refused unblocked serving ready full =>
    exact { ordered with creates := follows.creates, lags := follows.lags.putBack serving ready }

theorem retry (follows : Follows config pipe pipe.now (pipe.now + 1)) (positive : config.Positive)
    (retries : pipe.Retries next) : Follows config next pipe.now (pipe.now + 1) := by
  cases retries with
  | idle => exact follows
  | passed owed room forwards =>
    have reopened : Follows config
        (pipe.withMemory (pipe.component.gate.reopened, pipe.memory.settling)) pipe.now
        (pipe.now + 1) :=
      { follows with
        toOrdered := { follows.toOrdered with }
        lags := follows.lags.congr rfl rfl }
    exact reopened.forward positive (Nat.le_succ _) (Nat.le_refl _) forwards

theorem issue (follows : Follows config pipe pipe.now (pipe.now + 1))
    (issues : pipe.Issues (none, next)) :
    Follows config next (pipe.now + 1) (pipe.now + 1) := by
  have ordered := (follows.toOrdered.issue issues).2
  cases issues with
  | idle => exact { follows with creates := follows.creates.wait }
  | @admitted packet source cycles offers policy room =>
    have creates := follows.creates.offer follows.regular offers
    have lags := follows.lags
    rw [sent, ← offers.accepted_responses] at lags
    exact { ordered with creates := { creates with }, lags := lags }
  | @refused packet source offers full =>
    have creates := follows.creates.offer follows.regular offers
    have lags := follows.lags
    rw [sent, ← offers.rejected_responses] at lags
    exact { ordered with creates := { creates with }, lags := lags }

end Follows

/-- At an edge the requester gets a response, or a retry, or neither. -/
theorem edgeWork_requester (pipe : Pipeline) (holds : RecordedRequester → Prop)
    (receive : ∀ requester packet, holds requester →
      holds (RecordedRequester.receiving requester packet pipe.now))
    (resume : ∀ requester, holds requester → holds (RecordedRequester.resuming requester))
    (now : holds pipe.requester) : holds (SecureModule.edgeWork pipe).requester := by
  have delivered : holds (SecureModule.drainResponse
      (SecureModule.drainRequest (SecureModule.edgeFired pipe))).requester := by
    generalize drained : SecureModule.drainRequest (SecureModule.edgeFired pipe) = sent
    have same : sent.requester = pipe.requester := by rw [← drained]; rfl
    have time : sent.now = pipe.now := by rw [← drained]; rfl
    have delivers : SecureModule.Delivers sent.component.gate sent.requester sent.now _ :=
      SecureModule.sendResponse_delivers
    rw [SecureModule.drainResponse_eq]
    generalize (sent.component.gate.sendResponse sent.requester sent.now).2 = outcome at delivers
    cases delivers with
    | idle => exact same ▸ now
    | @taken head rest =>
      have received := receive pipe.requester head now
      rwa [← same, ← time] at received
  unfold SecureModule.edgeWork
  generalize SecureModule.drainResponse
    (SecureModule.drainRequest (SecureModule.edgeFired pipe)) = sent at delivered
  have settled : holds (SecureModule.settleRequestRetry sent).requester :=
    SecureModule.settleRequestRetry_keeps (fun next => holds next.requester) delivered
      (resume _ delivered)
  exact SecureModule.settleResponseRetry_keeps (fun next => holds next.requester) settled settled

theorem edgeWork_accounted (pipe : Pipeline) (accounted : pipe.requester.Accounted) :
    (SecureModule.edgeWork pipe).requester.Accounted :=
  edgeWork_requester pipe RecordedRequester.Accounted
    (fun _ packet accounted => accounted.receive packet _) (fun _ accounted => accounted.resume)
    accounted

/-- A response that comes at the edge is noticed in the same tick. -/
theorem edgeWork_notices (pipe : Pipeline)
    (notices : Simulation.Notices config (fun delay => delay = 0) pipe.requester pipe.now) :
    Simulation.Notices config (fun delay => delay = 0) (SecureModule.edgeWork pipe).requester
      pipe.now :=
  edgeWork_requester pipe
    (fun requester => Simulation.Notices config (fun delay => delay = 0) requester pipe.now)
    (fun _ packet notices => notices.receive ⟨0, rfl, rfl⟩ packet)
    (fun _ notices => notices.resume) notices

theorem Serves.frame (serves : pipe.Serves next) : next.requester = pipe.requester ∧
    next.events = pipe.events ∧ next.component.driver = pipe.component.driver := by
  cases serves <;> exact ⟨rfl, rfl, rfl⟩

theorem Retries.frame (retries : pipe.Retries next) : next.requester = pipe.requester ∧
    next.events = pipe.events ∧ next.component.driver = pipe.component.driver := by
  cases retries <;> exact ⟨rfl, rfl, rfl⟩

theorem Issues.frame (issues : pipe.Issues (none, next)) :
    next.requester.receipts = pipe.requester.receipts ∧
    (pipe.requester.Accounted → next.requester.Accounted) ∧ next.now = pipe.now := by
  cases issues with
  | idle => exact ⟨rfl, id, rfl⟩
  | admitted offers => exact ⟨rfl, fun accounted => accounted.issue offers, rfl⟩
  | refused offers => exact ⟨rfl, fun accounted => accounted.reject offers, rfl⟩

/-- The requester's turn adds the end of one check to the events to come, or nothing. -/
theorem Issues.coming (issues : pipe.Issues (none, next))
    (period : 0 < pipe.component.config.clockPeriod) {edge : Nat} {checks : List (Nat × SlotId)}
    (awaits : pipe.events.Awaits
      ((edge, .component .edge) :: checks.map SecureEvent.checkEnd)) :
    ∃ checks' : List (Nat × SlotId), checks'.length ≤ checks.length + 1 ∧
      next.events.Awaits ((edge, .component .edge) :: checks'.map SecureEvent.checkEnd) := by
  cases issues with
  | idle => exact ⟨checks, Nat.le_succ _, awaits⟩
  | admitted =>
    exact ⟨(_, _) :: checks, Nat.le_refl _,
      (awaits.schedule (Clock.le_edge period) _ _).reorder (.swap _ _ _)⟩
  | refused => exact ⟨checks, Nat.le_succ _, awaits⟩

/-- The events have the priorities of what they are, and the driver waits for its only edge. -/
structure Driven (pipe : Pipeline) : Prop where
  ranked : pipe.events.Ranked SecureEvent.rank
  priority : pipe.component.driver.priority = Priority.clock
  running : pipe.component.driver.stopped = false
  drives : pipe.component.driver.Drives pipe.events (.component .edge)

theorem Issues.size_le (issues : pipe.Issues (none, next)) :
    next.events.size ≤ pipe.events.size + 1 := by
  cases issues with
  | idle => exact Nat.le_succ _
  | admitted => exact Nat.le_of_eq EventQueue.size_scheduled
  | refused => exact Nat.le_succ _

theorem opening_driven (config : SecureModuleConfig) (requester : RecordedRequester)
    (memory : RecordedMemory) :
    Driven (SecureModule.awaitingEdge
      (.assemble (SecureModule.fresh config) requester memory)) where
  ranked := by
    have priority : Priority.clock = SecureEvent.rank (.component .edge) := rfl
    exact EventQueue.ranked_empty.schedule priority _
  priority := rfl
  running := rfl
  drives := RepeatingEvent.awaiting_drives (fun _ member => absurd member List.not_mem_nil) _

namespace Driven

variable (driven : pipe.Driven)
include driven

theorem schedule {event : SimulationEvent SecureEvent} {priority : Int}
    (same : priority = SecureEvent.rank event) (apart : event ≠ .component .edge) (tick : Nat) :
    Driven { pipe with events := pipe.events.scheduled tick priority event } where
  ranked := driven.ranked.schedule same tick
  priority := driven.priority
  running := driven.running
  drives := driven.drives.schedule apart tick priority

theorem issue (issues : pipe.Issues (none, next)) : next.Driven := by
  cases issues with
  | idle => exact driven
  | @admitted packet source cycles =>
    have priority : Priority.standard = SecureEvent.rank
      (.component (.checkOver pipe.component.gate.slots.acquire.1)) := rfl
    exact { driven.schedule priority nofun _ with }
  | refused => exact { driven with }

/-- The turns of the clock leave the driver alone, and add one event at most. -/
theorem turns {served retried : Pipeline} (serves : pipe.Serves served)
    (retries : served.Retries retried) (issues : retried.Issues (none, next)) :
    next.Driven ∧ next.events.size ≤ pipe.events.size + 1 := by
  obtain ⟨-, servedEvents, servedDriver⟩ := serves.frame
  obtain ⟨-, retriedEvents, retriedDriver⟩ := retries.frame
  have events := retriedEvents.trans servedEvents
  have driver := retriedDriver.trans servedDriver
  have before : retried.Driven := {
    ranked := events ▸ driven.ranked
    priority := driver ▸ driven.priority
    running := driver ▸ driven.running
    drives := by
      rw [events, driver]
      exact driven.drives }
  exact ⟨before.issue issues, events ▸ issues.size_le⟩

theorem mem_halt {edge : Nat} {checks : List (Nat × SlotId)}
    (awaits : pipe.events.Awaits ((edge, .component .edge) :: checks.map SecureEvent.checkEnd)) :
    ∀ left ∈ (pipe.component.driver.halt pipe.events).2.pending,
      ∃ slot, left.payload = .component (.checkOver slot) := by
  intro left member
  obtain ⟨present, other⟩ := driven.drives.mem_halt member
  have event : (left.tick, left.payload) ∈ pipe.events.agenda :=
    List.mem_map.2 ⟨left, present, rfl⟩
  rw [awaits.agenda.mem_iff, List.mem_cons] at event
  rcases event with same | check
  · exact absurd (congrArg Prod.snd same) other
  · obtain ⟨check, -, same⟩ := List.mem_map.1 check
    exact ⟨check.2, (congrArg Prod.snd same).symm⟩

section Firing

variable {entry : EventEntry (SimulationEvent SecureEvent)}
  {rest : List (EventEntry (SimulationEvent SecureEvent))}
  (pending : pipe.events.pending = entry :: rest)
include pending

theorem fire : Driven { pipe with events := pipe.events.after entry rest } where
  ranked := driven.ranked.fire pending
  priority := driven.priority
  running := driven.running
  drives := driven.drives.fire pending

/-- The driver comes before the clock, so that the next edge is later. -/
theorem clock_lt_edge {events : List (Nat × SimulationEvent SecureEvent)} {edge : Nat}
    (awaits : pipe.events.Awaits events) (member : (edge, .component .edge) ∈ events)
    (payload : entry.payload = .clock) : entry.tick < edge := by
  have urgent : SecureEvent.rank (.component .edge) < SecureEvent.rank entry.payload := by
    rw [payload]
    change Priority.clock < Priority.external
    decide
  exact driven.ranked.first_lt pending awaits.sound (awaits.agenda.mem_iff.2 member) urgent

theorem edge {worked : Pipeline} (events : worked.events = pipe.events.after entry rest)
    (driver : worked.component.driver = pipe.component.driver.occurred)
    (absent : ∀ event ∈ worked.events.agenda, event.2 ≠ .component SecureEvent.edge) :
    worked.component.driver.canSchedule = true ∧ Driven (SecureModule.awaitingEdge worked) ∧
      (SecureModule.awaitingEdge worked).events.size = pipe.events.size := by
  have priority : worked.component.driver.priority =
      SecureEvent.rank (.component SecureEvent.edge) := by
    rw [driver]
    exact driven.priority
  refine ⟨?_, ⟨?_, priority, ?_, RepeatingEvent.awaiting_drives absent _⟩, ?_⟩
  · rw [driver]
    exact RepeatingEvent.canSchedule_occurred driven.running
  · exact (events ▸ driven.ranked.fire pending).schedule priority _
  · change worked.component.driver.stopped = false
    rw [driver]
    exact driven.running
  · have size := EventQueue.size_after pending
    rw [← events] at size
    exact EventQueue.size_scheduled.trans size

end Firing

end Driven

/-- The module after the turns of a tick of the clock, with its driver waiting for the edge and
these checks under way. -/
structure Turned (config : BenchmarkConfig) (before pipe : Pipeline) (clock edge : Nat)
    (checks : List (Nat × SlotId)) : Prop where
  now : pipe.now = clock
  follows : Follows config pipe (clock + 1) (clock + 1)
  awaits : pipe.events.Awaits ((edge, .component .edge) :: checks.map SecureEvent.checkEnd)
  ranked : pipe.events.Ranked SecureEvent.rank
  driverPriority : pipe.component.driver.priority = Priority.clock
  running : pipe.component.driver.stopped = false
  drives : pipe.component.driver.Drives pipe.events (.component .edge)
  receipts : pipe.requester.receipts = before.requester.receipts
  accounted : pipe.requester.Accounted

namespace Turned

variable {before : Pipeline} {clock edge : Nat} {checks : List (Nat × SlotId)}
  (turned : Turned config before pipe clock edge checks)
include turned

theorem driven : pipe.Driven where
  ranked := turned.ranked
  priority := turned.driverPriority
  running := turned.running
  drives := turned.drives

theorem length_halt :
    (pipe.component.driver.halt pipe.events).2.pending.length ≤ checks.length + 1 := by
  have size := turned.awaits.size_eq
  have fewer := pipe.component.driver.length_halt_le pipe.events
  rw [List.length_cons, List.length_map, EventQueue.size] at size
  omega

end Turned

end Pipeline

namespace Simulation

variable {config : BenchmarkConfig} {limit clock edge : Nat}
  {checks : List (Nat × SlotId)}
  {sim : Simulation SecureModule RecordedRequester RecordedMemory SecureEvent}

/-- Between two events of a run that is not ahead of the schedule, with these checks under way. -/
structure Guards (config : BenchmarkConfig) (limit : Nat)
    (sim : Simulation SecureModule RecordedRequester RecordedMemory SecureEvent)
    (clock edge : Nat) (checks : List (Nat × SlotId)) : Prop
    extends sim.Going config (fun delay => delay = 0) limit clock
      ((edge, .component .edge) :: checks.map SecureEvent.checkEnd) where
  follows : Pipeline.Follows config sim.rig clock clock
  /-- The clock comes before the driver, or in the same tick after it. -/
  apart : clock ≤ edge
  ranked : sim.rig.events.Ranked SecureEvent.rank
  priority : sim.clock.priority = Priority.external
  driverPriority : sim.rig.component.driver.priority = Priority.clock
  running : sim.rig.component.driver.stopped = false
  drives : sim.rig.component.driver.Drives sim.rig.events (.component .edge)

theorem Guards.driven (guards : Guards config limit sim clock edge checks) :
    Pipeline.Driven sim.rig where
  ranked := guards.ranked
  priority := guards.driverPriority
  running := guards.running
  drives := guards.drives

/-- A run goes on behind the schedule, or it ended behind the schedule and only checks are left. -/
def ModuleLags (config : BenchmarkConfig) (limit measure : Nat)
    (sim : Simulation SecureModule RecordedRequester RecordedMemory SecureEvent) : Prop :=
  (∃ clock edge checks, Guards config limit sim clock edge checks ∧
    3 * (limit + 1 - clock) + (limit + 1 - edge) + checks.length ≤ measure) ∨
    (∀ entry ∈ sim.rig.events.pending, ∃ slot, entry.payload = .component (.checkOver slot)) ∧
      sim.rig.events.pending.length ≤ measure ∧
      ∃ ticks, sim.Finished config (fun delay => delay = 0) limit ticks ∧
        config.answerTick (config.workload.numRequests - 1) < ticks

section

variable {entry : EventEntry (SimulationEvent SecureEvent)}
  {rest : List (EventEntry (SimulationEvent SecureEvent))}
  (guards : Guards config limit sim clock edge checks)
  (pending : sim.rig.events.pending = entry :: rest) (within : entry.tick ≤ limit)
include guards pending within

theorem Guards.check_step {check : Nat × SlotId} (member : check ∈ checks)
    (fires : SecureEvent.checkEnd check = (entry.tick, entry.payload)) :
    Gives Overflow (handle entry.payload
        { sim with rig := { sim.rig with events := sim.rig.events.after entry rest } })
      fun result => result.1 = none ∧
        Guards config limit result.2 clock edge (checks.erase check) := by
  have awaits := guards.awaits
  have split := List.perm_cons_erase member
  have elapsed : sim.rig.now ≤ entry.tick := awaits.now_le pending
  have fired : (sim.rig.events.after entry rest).Awaits ((clock, .clock) ::
      (edge, .component .edge) :: (checks.erase check).map SecureEvent.checkEnd) := by
    refine awaits.fire pending ?_
    rw [← fires]
    exact ((split.map SecureEvent.checkEnd).append_left [_, _]).trans List.perm_middle
  obtain ⟨-, payload⟩ := Prod.mk.inj fires
  rw [← payload]
  apply handle_gives
  exact .ok ⟨rfl, { guards with
    awaits := fired
    soon := Nat.le_trans guards.soon (Nat.succ_le_succ elapsed)
    within := within
    follows := { guards.follows with toOrdered := { guards.follows.toOrdered with } }
    ranked := guards.ranked.fire pending
    drives := guards.drives.fire pending }⟩

theorem Guards.edge_step (positive : config.Positive)
    (fires : (entry.tick, entry.payload) = (edge, SimulationEvent.component SecureEvent.edge)) :
    Gives Overflow (handle entry.payload
        { sim with rig := { sim.rig with events := sim.rig.events.after entry rest } })
      fun result => result.1 = none ∧
        ∃ later, edge < later ∧ Guards config limit result.2 clock later checks := by
  obtain ⟨rfl, payload⟩ := Prod.mk.inj fires
  have awaits := guards.awaits
  -- the clock ticks at this edge, after the driver
  have same : clock = entry.tick := Nat.le_antisymm guards.apart
    (EventQueue.first_le awaits.sound pending (awaits.agenda.mem_iff.2 List.mem_cons_self))
  subst same
  have fired : (sim.rig.events.after entry rest).Awaits
      ((entry.tick, .clock) :: checks.map SecureEvent.checkEnd) := by
    refine awaits.fire pending ?_
    rw [payload]
    exact .swap _ _ _
  let before : Pipeline := { sim.rig with events := sim.rig.events.after entry rest }
  have passed : Pipeline.Follows config before entry.tick entry.tick :=
    { guards.follows with toOrdered := { guards.follows.toOrdered with } }
  have follows := passed.edgeWork positive (Nat.le_refl _) (Nat.le_succ _)
  have accounted := Pipeline.edgeWork_accounted before guards.accounted
  have notices := Pipeline.edgeWork_notices before guards.notices
  have events : (SecureModule.edgeWork before).events = sim.rig.events.after entry rest :=
    SecureModule.edgeWork_events before
  have driver := SecureModule.edgeWork_driver before
  rw [payload]
  apply handle_gives
  rw [react_edge]
  change Gives Overflow ((SecureModule.scheduleEdge (SecureModule.edgeWork before)).map _) _
  generalize SecureModule.edgeWork before = worked at follows accounted notices events driver ⊢
  have workload : worked.requester.peer.workload = config.workload := follows.creates.workload
  have period := follows.period
  have now : worked.events.now = entry.tick := by rw [events]; rfl
  let later := Clock.edge worked.events.now 1 worked.component.config.clockPeriod
  have edgeLater : worked.events.now < later := Clock.lt_edge period Nat.one_pos
  have absent : ∀ event ∈ worked.events.agenda, event.2 ≠ .component SecureEvent.edge := by
    intro event member
    rw [events, fired.agenda.mem_iff, List.mem_cons] at member
    rcases member with rfl | member
    · exact nofun
    · obtain ⟨check, -, rfl⟩ := List.mem_map.1 member
      exact nofun
  have awaited : worked.events.Awaits ((entry.tick, .clock) :: checks.map SecureEvent.checkEnd) :=
    events ▸ fired
  obtain ⟨free, driven, -⟩ := guards.driven.edge pending events driver absent
  apply (SecureModule.scheduleEdge_of_free period free).map
  rintro _ rfl
  exact ⟨rfl, later, now ▸ edgeLater, {
    awaits := (awaited.schedule (Nat.le_of_lt edgeLater) _ _).reorder (.swap _ _ _)
    soon := Nat.le_trans (Nat.le_of_eq now.symm) (Nat.le_succ _)
    going := guards.going
    unfinished := guards.unfinished
    within := Nat.le_trans (Nat.le_of_eq now) within
    workload := workload
    accounted := accounted
    notices := notices
    follows := { follows with toOrdered := { follows.toOrdered with } }
    apart := Nat.le_trans (Nat.le_of_eq now.symm) (Nat.le_of_lt edgeLater)
    ranked := driven.ranked
    priority := guards.priority
    driverPriority := driven.priority
    running := driven.running
    drives := driven.drives }⟩

omit within in
theorem Guards.turned (positive : config.Positive)
    (fires : (entry.tick, entry.payload) = (clock, .clock)) :
    Gives Overflow (turns { sim.rig with events := sim.rig.events.after entry rest })
      fun result => result.1 = none ∧ ∃ checks', checks'.length ≤ checks.length + 1 ∧
        Pipeline.Turned config sim.rig result.2 clock edge checks' := by
  obtain ⟨rfl, payload⟩ := Prod.mk.inj fires
  have fired : (sim.rig.events.after entry rest).Awaits
      ((edge, .component .edge) :: checks.map SecureEvent.checkEnd) :=
    guards.awaits.fire pending (.of_eq (by rw [payload]))
  let before : Pipeline := { sim.rig with events := sim.rig.events.after entry rest }
  have passed : Pipeline.Follows config before before.now before.now :=
    { guards.follows with toOrdered := { guards.follows.toOrdered with } }
  apply (turns_issues passed.toOrdered).mono
  rintro ⟨_, issued⟩ ⟨rfl, served, retried, serves, retries, issues⟩
  obtain ⟨servedRequester, servedEvents, -⟩ := serves.frame
  obtain ⟨retriedRequester, retriedEvents, -⟩ := retries.frame
  have events : retried.events = sim.rig.events.after entry rest :=
    retriedEvents.trans servedEvents
  have servedNow : served.now = entry.tick := congrArg EventQueue.now servedEvents
  have retriedNow : retried.now = entry.tick := congrArg EventQueue.now events
  have first : Pipeline.Follows config served entry.tick (entry.tick + 1) :=
    passed.serve positive serves
  rw [← servedNow] at first
  have second := first.retry positive retries
  rw [servedNow, ← retriedNow] at second
  have third := second.issue issues
  rw [retriedNow] at third
  obtain ⟨receipts, accounted, issuedNow⟩ := issues.frame
  obtain ⟨checks', length, awaited⟩ := issues.coming second.period (events ▸ fired)
  obtain ⟨driven, -⟩ := (guards.driven.fire pending).turns serves retries issues
  rw [retriedRequester.trans servedRequester] at receipts accounted
  exact ⟨rfl, checks', length, {
    now := issuedNow.trans retriedNow
    follows := third
    awaits := awaited
    ranked := driven.ranked
    driverPriority := driven.priority
    running := driven.running
    drives := driven.drives
    receipts := receipts
    accounted := accounted guards.accounted }⟩

theorem Guards.clock_step (positive : config.Positive)
    (some_request : 0 < config.workload.numRequests)
    (fires : (entry.tick, entry.payload) = (clock, SimulationEvent.clock)) :
    Gives Overflow (handle entry.payload
        { sim with rig := { sim.rig with events := sim.rig.events.after entry rest } })
      fun result => result.1 = none ∧ ModuleLags config limit
        (3 * (limit - clock) + (limit + 1 - edge) + checks.length + 2) result.2 := by
  have turning := guards.turned pending positive fires
  obtain ⟨rfl, payload⟩ := Prod.mk.inj fires
  rw [payload]
  apply handle_gives
  apply tick_gives
  apply turning.mono
  rintro ⟨_, issued⟩ ⟨rfl, checks', length, turned⟩
  simp only at turned
  refine ⟨rfl, ?_⟩
  have edgeLater : entry.tick < edge := guards.driven.clock_lt_edge pending guards.awaits
    (List.mem_cons_of_mem _ List.mem_cons_self) payload
  let after : Simulation SecureModule RecordedRequester RecordedMemory SecureEvent :=
    ⟨issued, sim.clock.occurred, sim.finishedAt⟩
  have coming : after.rig.events.Awaits
      ((edge, .component .edge) :: checks'.map SecureEvent.checkEnd) := turned.awaits
  have now : after.now = entry.tick := turned.now
  have inside : after.now ≤ limit := now ▸ within
  have notices : Notices config (fun delay => delay = 0) issued.requester after.now := by
    intro receipt found
    rw [turned.receipts] at found
    rw [now]
    exact guards.notices receipt found
  have concluded := Going.conclude some_request coming
    (RepeatingEvent.canSchedule_occurred guards.going) guards.going guards.unfinished inside
    turned.follows.creates.workload turned.accounted notices
  apply concluded.mono
  rintro final (⟨finished, rfl, done⟩ | ⟨missing, rfl, going⟩)
  · refine ⟨rfl, .inr ⟨turned.driven.mem_halt turned.awaits, ?_, after.now, done rfl, ?_⟩⟩
    · have fewer := turned.length_halt
      change (issued.component.driver.halt issued.events).2.pending.length ≤ _
      omega
    · rw [now]
      -- the last response left memory before this tick, as the driver comes before the clock
      apply guards.follows.lags.answered
      have responses : sim.rig.requester.peer.stats.responses =
          issued.requester.peer.stats.responses := by
        rw [guards.accounted, turned.accounted, turned.receipts]
      have answered : config.workload.numRequests ≤ issued.requester.peer.stats.responses := by
        rw [RequestGenerator.isFinished_iff, turned.follows.creates.workload]
          at finished
        exact finished
      unfold Pipeline.sent
      omega
  · have apart := SimulationEvent.clock_ne_component SecureEvent.edge
    have driven := turned.driven.schedule guards.priority apart (after.now + 1)
    rw [now] at going
    exact ⟨rfl, .inl ⟨entry.tick + 1, edge, checks', { going with
      follows := { turned.follows with toOrdered := { turned.follows.toOrdered with } }
      apart := edgeLater
      ranked := driven.ranked
      priority := guards.priority
      driverPriority := driven.priority
      running := driven.running
      drives := driven.drives }, by omega⟩⟩

end

theorem moduleLags_descends (positive : config.Positive)
    (some_request : 0 < config.workload.numRequests) (limit : Nat) :
    Descends Overflow limit (fun _ => False) (ModuleLags config limit) := by
  rintro measure sim entry rest (⟨clock, edge, checks, guards, enough⟩ |
    ⟨only, fewer, ticks, finished, beyond⟩) pending within
  · obtain fires | fires | fires : (entry.tick, entry.payload) = (clock, .clock) ∨
        (entry.tick, entry.payload) = (edge, .component .edge) ∨
        (entry.tick, entry.payload) ∈ checks.map SecureEvent.checkEnd := by
      simpa only [List.mem_cons] using guards.awaits.fires pending
    · obtain ⟨rfl, -⟩ := Prod.mk.inj fires
      apply (guards.clock_step pending within positive some_request fires).mono
      rintro result ⟨none, next⟩
      exact ⟨_, by omega, .inr ⟨none, next⟩⟩
    · obtain ⟨rfl, -⟩ := Prod.mk.inj fires
      apply (guards.edge_step pending within positive fires).mono
      rintro result ⟨none, later, above, next⟩
      exact ⟨3 * (limit + 1 - clock) + (limit + 1 - later) + checks.length, by omega,
        .inr ⟨none, .inl ⟨clock, later, checks, next, Nat.le_refl _⟩⟩⟩
    · obtain ⟨check, member, fires⟩ := List.mem_map.1 fires
      have shorter := List.length_erase_of_mem member
      have some_check := List.length_pos_of_mem member
      apply (guards.check_step pending within member fires).mono
      rintro result ⟨none, next⟩
      exact ⟨3 * (limit + 1 - clock) + (limit + 1 - edge) + (checks.erase check).length, by omega,
        .inr ⟨none, .inl ⟨clock, edge, _, next, Nat.le_refl _⟩⟩⟩
  · rw [pending] at only fewer
    obtain ⟨slot, payload⟩ := only entry List.mem_cons_self
    rw [payload]
    apply handle_gives
    exact .ok ⟨rest.length, fewer, .inr ⟨rfl, .inr
      ⟨fun left member => only left (List.mem_cons_of_mem _ member), Nat.le_refl _, ticks,
        { finished with }, beyond⟩⟩⟩

/-- The run of a module ends later than the schedule says. -/
theorem module_concludes (positive : config.Positive)
    (some_request : 0 < config.workload.numRequests) (maxTicks : Nat) :
    Concludes (SecureModule.fresh config.secureModule) config maxTicks (fun _ => False)
      (fun delay => delay = 0)
      fun ticks => config.answerTick (config.workload.numRequests - 1) < ticks := by
  let rig : Pipeline := SecureModule.awaitingEdge (.assemble
    (SecureModule.fresh config.secureModule)
    (Recorded.blank (RequestGenerator.fresh config.workload))
    (Recorded.blank (MemoryModel.idle config.memory)))
  let edge := Clock.edge 0 1 config.secureModule.clockPeriod
  have period : 0 < config.secureModule.clockPeriod := positive.period
  have awaits : rig.events.Awaits [(edge, .component .edge)] :=
    EventQueue.awaits_empty.schedule (Nat.zero_le _) _ _
  have apart := SimulationEvent.clock_ne_component SecureEvent.edge
  have opened : rig.Driven := Pipeline.opening_driven config.secureModule _ _
  have driven := opened.schedule (show Priority.external = _ from rfl) apart 0
  have ticking : (begun rig).Ticking 0 [(edge, .component .edge)] := begun_ticking awaits rfl
  have ordered := assemble_ordered period positive.line config.memory
  have guards : Guards config maxTicks (begun rig) 0 edge [] :=
    { ticking with
      unfinished := rfl
      within := Nat.zero_le _
      workload := rfl
      accounted := rfl
      notices := nofun
      follows := { ordered with
        creates := {
          workload := rfl
          created := Nat.zero_le _
          window := Nat.zero_le _ }
        lags := RecordedMemory.idle_lags config }
      apart := Nat.zero_le _
      ranked := driven.ranked
      priority := rfl
      driverPriority := driven.priority
      running := driven.running
      drives := driven.drives }
  have ready : Gives Overflow (SecureModule.scheduleEdge (.assemble
      (SecureModule.fresh config.secureModule)
      (Recorded.blank (RequestGenerator.fresh config.workload))
      (Recorded.blank (MemoryModel.idle config.memory)))) fun rig : Pipeline => rig.now = 0 ∧
        rig.events.Awaits [(edge, .component .edge)] ∧
        ModuleLags config maxTicks (3 * (maxTicks + 1 - 0) + (maxTicks + 1 - edge))
          (begun rig) := by
    apply (SecureModule.scheduleEdge_of_free period rfl).mono
    rintro _ rfl
    exact ⟨rfl, awaits, .inl ⟨0, edge, [], guards, Nat.le_refl _⟩⟩
  refine concludes_of_descends ready (moduleLags_descends positive some_request maxTicks) ⟨0, rfl⟩
    ?_ (by simp only [List.length_singleton]; omega)
  rintro measure sim (⟨clock, edge, checks, guards, -⟩ | ⟨-, -, ticks, finished, beyond⟩)
  · exact .inl ⟨clock, _, guards.toGoing⟩
  · exact .inr ⟨ticks, finished, beyond⟩

end Simulation

end GatedMemory
