import GatedMemory.Proofs.Link
import GatedMemory.Proofs.Reports
import GatedMemory.Proofs.Schedule

set_option autoImplicit false

namespace GatedMemory

/-- How many ticks after the last response came the clock notices. -/
structure LinkConfig.Delays (config : LinkConfig) (delay : Nat) : Prop where
  short : delay ≤ 1
  prompt : 0 < config.latency → delay = 0
  delayed : config.latency = 0 → config.clockPeriod = 1 → delay = 1

theorem LinkConfig.exists_delays (config : LinkConfig) : ∃ delay, config.Delays delay := by
  by_cases instant : config.latency = 0
  · exact ⟨1, Nat.le_refl _, by omega, fun _ _ => rfl⟩
  · exact ⟨0, Nat.zero_le _, fun _ => rfl, by omega⟩

def LinkEvent.rank : SimulationEvent LinkEvent → Int :=
  SimulationEvent.rank fun _ => Priority.standard

namespace Crossing

variable {config : BenchmarkConfig} {rig next : Crossing}
  {travelling travelling' : List (Nat × LinkEvent)} {clock : Nat}

def returning (travelling : List (Nat × LinkEvent)) : Nat :=
  travelling.countP fun event => !event.2.isRequest

/-- When the packets on the link arrive, seen from the next tick of the clock. -/
structure Spaced (config : LinkConfig) (travelling : List (Nat × LinkEvent)) (clock : Nat) :
    Prop where
  ahead : 0 < config.latency → ∀ event ∈ travelling, clock ≤ event.1
  behind : config.latency = 0 → config.clockPeriod = 1 → ∀ event ∈ travelling, event.1 < clock

theorem Spaced.of_subset {config : LinkConfig} (spaced : Spaced config travelling clock)
    (fewer : travelling' ⊆ travelling) : Spaced config travelling' clock where
  ahead latency event left := spaced.ahead latency event (fewer left)
  behind instant unit event left := spaced.behind instant unit event (fewer left)

theorem Spaced.delays {config : LinkConfig} (spaced : Spaced config travelling clock)
    {event : Nat × LinkEvent} (member : event ∈ travelling) (first : event.1 ≤ clock)
    (soon : clock ≤ event.1 + 1) : ∃ delay, config.Delays delay ∧ clock = event.1 + delay := by
  refine ⟨clock - event.1, ⟨by omega, fun latency => ?_, fun instant unit => ?_⟩, by omega⟩
  · have ahead := spaced.ahead latency event member
    omega
  · have behind := spaced.behind instant unit event member
    omega

/-- In an action of the clock at most one packet enters the link. -/
inductive Loads (rig next : Crossing) (travelling : List (Nat × LinkEvent)) :
    List (Nat × LinkEvent) → Prop where
  | none (events : next.events = rig.events) : Loads rig next travelling travelling
  | one {event : LinkEvent} (events : next.events = (FixedLatencyLink.carrying rig event).events) :
    Loads rig next travelling ((FixedLatencyLink.arrivalTick rig, event) :: travelling)

namespace Loads

variable (loads : Loads rig next travelling travelling')
include loads

theorem now : next.now = rig.now := by
  cases loads with
  | none events => exact congrArg EventQueue.now events
  | one events =>
    have same := congrArg EventQueue.now events
    exact same

theorem length_le : travelling'.length ≤ travelling.length + 1 := by
  cases loads with
  | none => exact Nat.le_succ _
  | one => exact Nat.le_refl _

theorem awaits (steady : Steady config rig travelling) (positive : config.Positive)
    (awaits : rig.events.Awaits (travelling.map LinkEvent.arrival)) :
    next.events.Awaits (travelling'.map LinkEvent.arrival) := by
  cases loads with
  | none events => exact events ▸ awaits
  | one events => exact events ▸ steady.carry positive awaits _

theorem ranked (ranked : rig.events.Ranked LinkEvent.rank) :
    next.events.Ranked LinkEvent.rank := by
  cases loads with
  | none events => exact events ▸ ranked
  | @one event events =>
    have priority : Priority.standard = LinkEvent.rank (.component event) := rfl
    exact events ▸ ranked.schedule priority _

theorem spaced (steady : Steady config rig travelling) (positive : config.Positive)
    (spaced : Spaced config.link travelling (rig.now + 1)) :
    Spaced config.link travelling' (rig.now + 1) := by
  cases loads with
  | none => exact spaced
  | @one event =>
    have period := steady.period positive
    refine ⟨fun latency other member => ?_, fun instant unit other member => ?_⟩
    · rcases List.mem_cons.1 member with rfl | old
      · exact Clock.lt_edge period (steady.configured ▸ latency)
      · exact spaced.ahead latency other old
    · rcases List.mem_cons.1 member with rfl | old
      · rw [FixedLatencyLink.arrivalTick, steady.configured, instant, unit, Clock.edge, Clock.align,
          Nat.div_one]
        omega
      · exact spaced.behind instant unit other old

end Loads

/-- Neither the requester nor memory is ahead of the schedule. -/
structure Follows (config : BenchmarkConfig) (rig : Crossing)
    (travelling : List (Nat × LinkEvent)) (issuing answering : Nat) : Prop
    extends Steady config rig travelling where
  creates : rig.requester.peer.Creates config issuing
  lags : rig.memory.Lags config (rig.requester.peer.stats.responses + returning travelling)
    answering

namespace Follows

theorem numbers {issuing answering : Nat}
    (follows : Follows config rig travelling issuing answering)
    {tick : Nat} {packet : Packet} (member : (tick, .requestArrives packet) ∈ travelling) :
    rig.requester.peer.stats.responses + returning travelling + rig.memory.peer.serving.length <
      rig.requester.peer.created := by
  have issued := follows.regular.issued
  have count := follows.count
  have fewer : returning travelling < travelling.length := by
    refine Nat.lt_of_le_of_ne List.countP_le_length fun all => ?_
    have response := List.countP_eq_length.1 all _ member
    simp only [LinkEvent.isRequest, Bool.not_true, Bool.false_eq_true] at response
  omega

variable {tick : Nat} {packet : Packet}

theorem reorder (follows : Follows config rig travelling clock clock)
    (same : travelling.Perm travelling') : Follows config rig travelling' clock clock :=
  { follows.toSteady.reorder same with
    creates := follows.creates
    lags := by
      have lags := follows.lags
      rwa [returning, same.countP_eq] at lags }

theorem pass (follows : Follows config rig travelling clock clock)
    {events : EventQueue (SimulationEvent LinkEvent)} (passed : rig.now ≤ events.now) :
    Follows config { rig with events } travelling clock clock :=
  { follows.toSteady.pass passed with creates := follows.creates, lags := follows.lags }

theorem accept (follows : Follows config rig ((tick, .requestArrives packet) :: travelling) clock
      clock) (positive : config.Positive) (room : rig.memory.peer.hasRoom = true)
    (soon : clock ≤ rig.now + 1) (answer : Packet) :
    Follows config { rig with memory := rig.memory.accepting packet answer rig.now } travelling
      clock clock := by
  have lags := follows.lags
  have number := follows.numbers List.mem_cons_self
  have created := follows.creates.created
  have window := follows.creates.window
  rw [returning, List.countP_cons_of_neg (by simp [LinkEvent.isRequest]), ← returning]
    at lags number
  exact { follows.toSteady.accept answer with
    creates := follows.creates
    lags := lags.accept positive room (by omega) (by omega) soon packet answer }

theorem deliver (follows : Follows config rig ((tick, .responseArrives packet) :: travelling) clock
      clock) :
    Follows config { rig with requester := rig.requester.receiving packet rig.now } travelling
      clock clock := by
  have lags := follows.lags
  rw [returning, List.countP_cons_of_pos (by rfl), ← returning, Nat.add_comm _ 1, ← Nat.add_assoc]
    at lags
  exact { follows.toSteady.deliver with
    creates := follows.creates.receive packet rig.now
    lags := lags }

theorem serve (follows : Follows config rig travelling rig.now rig.now)
    (positive : config.Positive) (serves : rig.Serves next) : ∃ travelling',
      rig.Loads next travelling travelling' ∧
      Follows config next travelling' rig.now (rig.now + 1) ∧ next.requester = rig.requester := by
  cases serves with
  | idle => exact ⟨travelling, .none rfl, { follows with lags := follows.lags.wait }, rfl⟩
  | @sent due answer rest unblocked serving ready =>
    have lags := follows.lags.send positive serving ready
    refine ⟨_, .one rfl, { follows.toSteady.release positive serving with
      creates := follows.creates, lags := ?_ }, rfl⟩
    rw [returning, List.countP_cons_of_pos (by rfl), ← returning]
    exact lags

theorem issue (follows : Follows config rig travelling rig.now (rig.now + 1))
    (positive : config.Positive) (issues : rig.Issues next) : ∃ travelling',
      rig.Loads next travelling travelling' ∧
      Follows config next travelling' (rig.now + 1) (rig.now + 1) ∧
      next.requester.receipts = rig.requester.receipts ∧
      (rig.requester.Accounted → next.requester.Accounted) := by
  cases issues with
  | idle =>
    exact ⟨travelling, .none rfl, { follows with creates := follows.creates.wait }, rfl, id⟩
  | @sent packet source offers =>
    have creates := follows.creates.offer follows.regular offers
    refine ⟨_, .one rfl, { follows.toSteady.send positive offers with
      creates := { creates with }, lags := ?_ }, rfl, fun accounted => accounted.issue offers⟩
    have lags := follows.lags
    rw [returning, List.countP_cons_of_neg (by simp [LinkEvent.isRequest]), ← returning]
    change RecordedMemory.Lags config rig.memory
      (source.accepted.stats.responses + returning travelling) (rig.now + 1)
    rw [offers.accepted_responses]
    exact lags

end Follows

/-- When the clock is first, every packet on the link arrives later, for the clock comes after
everything else at its tick. -/
theorem lt_arrival {events : EventQueue (SimulationEvent LinkEvent)}
    {entry : EventEntry (SimulationEvent LinkEvent)}
    {rest : List (EventEntry (SimulationEvent LinkEvent))}
    (awaits : events.Awaits ((clock, .clock) :: travelling.map LinkEvent.arrival))
    (ranked : events.Ranked LinkEvent.rank) (pending : events.pending = entry :: rest)
    (payload : entry.payload = .clock) : ∀ event ∈ travelling, entry.tick < event.1 := by
  intro event member
  have coming : LinkEvent.arrival event ∈ events.agenda :=
    awaits.agenda.mem_iff.2 (List.mem_cons_of_mem _ (List.mem_map_of_mem member))
  have urgent : LinkEvent.rank (LinkEvent.arrival event).2 < LinkEvent.rank entry.payload := by
    rw [payload]
    change Priority.standard < Priority.external
    decide
  exact ranked.first_lt pending awaits.sound coming urgent

theorem Follows.tick (follows : Follows config rig travelling rig.now rig.now)
    (positive : config.Positive) :
    Gives Overflow (Simulation.turns rig) fun result => result.1 = none ∧
      ∃ (between : Crossing) (travelling' later : List (Nat × LinkEvent)),
        Loads rig between travelling travelling' ∧
        Steady config between travelling' ∧ between.Loads result.2 travelling' later ∧
        Follows config result.2 later (rig.now + 1) (rig.now + 1) ∧
        result.2.requester.receipts = rig.requester.receipts ∧
        (rig.requester.Accounted → result.2.requester.Accounted) := by
  apply (serveResponse_serves (follows.period positive) fun _ => .overflow).bind
  intro served serves
  obtain ⟨travelling', first, middle, same⟩ := follows.serve positive serves
  rw [← first.now] at middle
  rw [middle.toSteady.retry]
  apply (issueRequest_issues middle.regular (middle.period positive) .overflow
    fun _ _ _ => .overflow).mono
  rintro ⟨_, issued⟩ ⟨rfl, issues⟩
  obtain ⟨later, second, last, receipts, accounted⟩ := middle.issue positive issues
  rw [first.now] at last
  exact ⟨rfl, served, travelling', later, first, middle.toSteady, second, last,
    receipts.trans (congrArg Recorded.receipts same), fun before => accounted (same ▸ before)⟩

end Crossing

namespace Simulation

variable {config : BenchmarkConfig} {limit clock : Nat} {travelling : List (Nat × LinkEvent)}
  {sim : Simulation FixedLatencyLink RecordedRequester RecordedMemory LinkEvent}

/-- Between two events of a run that is not ahead of the schedule. -/
structure Carries (config : BenchmarkConfig) (limit : Nat)
    (sim : Simulation FixedLatencyLink RecordedRequester RecordedMemory LinkEvent) (clock : Nat)
    (travelling : List (Nat × LinkEvent)) : Prop
    extends sim.Going config config.link.Delays limit clock (travelling.map LinkEvent.arrival) where
  follows : Crossing.Follows config sim.rig travelling clock clock
  spaced : Crossing.Spaced config.link travelling clock
  ranked : sim.rig.events.Ranked LinkEvent.rank
  priority : sim.clock.priority = Priority.external

/-- The link hands a request back that memory does not take. -/
def LinkFails (error : RunError) : Prop :=
  ∃ address, error = .requestRejected FixedLatencyLink.label address

/-- A run goes on behind the schedule, or it ended behind the schedule. -/
def LinkLags (config : BenchmarkConfig) (limit measure : Nat)
    (sim : Simulation FixedLatencyLink RecordedRequester RecordedMemory LinkEvent) : Prop :=
  (∃ clock travelling, Carries config limit sim clock travelling ∧
    3 * (limit + 1 - clock) + travelling.length ≤ measure) ∨
    sim.rig.events.pending = [] ∧ ∃ ticks, sim.Finished config config.link.Delays limit ticks ∧
      config.answerTick (config.workload.numRequests - 1) < ticks

section

variable {entry : EventEntry (SimulationEvent LinkEvent)}
  {rest : List (EventEntry (SimulationEvent LinkEvent))}
  (carries : Carries config limit sim clock travelling) (positive : config.Positive)
  (pending : sim.rig.events.pending = entry :: rest) (within : entry.tick ≤ limit)
include carries positive pending within

theorem Carries.arrive_step {event : Nat × LinkEvent} (member : event ∈ travelling)
    (fires : LinkEvent.arrival event = (entry.tick, entry.payload)) :
    Gives Overflow (handle entry.payload
        { sim with rig := { sim.rig with events := sim.rig.events.after entry rest } })
      fun result => (∃ error, result.1 = some error ∧ LinkFails error) ∨ result.1 = none ∧
        Carries config limit result.2 clock (travelling.erase event) := by
  have awaits := carries.awaits
  obtain ⟨tick, payload⟩ := Prod.mk.inj fires
  let before : Crossing := { sim.rig with events := sim.rig.events.after entry rest }
  have elapsed : sim.rig.now ≤ before.events.now := awaits.now_le pending
  have passed : Crossing.Follows config before travelling clock clock :=
    carries.follows.pass elapsed
  have split := List.perm_cons_erase member
  have first := passed.reorder split
  have fired : (sim.rig.events.after entry rest).Awaits
      ((clock, .clock) :: (travelling.erase event).map LinkEvent.arrival) := by
    refine awaits.fire pending ?_
    rw [← fires]
    exact ((split.map LinkEvent.arrival).cons _).trans (.swap _ _ _)
  have soon : clock ≤ entry.tick + 1 :=
    Nat.le_trans carries.soon (Nat.succ_le_succ elapsed)
  have order : entry.tick ≤ clock :=
    EventQueue.first_le awaits.sound pending (awaits.agenda.mem_iff.2 List.mem_cons_self)
  have spaced : Crossing.Spaced config.link (travelling.erase event) clock :=
    carries.spaced.of_subset List.erase_subset
  have noticed := carries.spaced.delays member (tick ▸ order) (tick ▸ soon)
  have going : Going config config.link.Delays limit { sim with rig := before } clock
      ((travelling.erase event).map LinkEvent.arrival) :=
    { carries.toGoing with awaits := fired, soon := soon, within := within }
  have arrives := passed.toSteady.handle member
  obtain ⟨arrival, kind⟩ := event
  obtain rfl : arrival = entry.tick := tick
  rw [show entry.payload = .component kind from payload.symm]
  apply handle_gives
  change Gives Overflow (Except.ok (FixedLatencyLink.handle kind before) >>= _) _
  generalize FixedLatencyLink.handle kind before = outcome at arrives
  cases arrives with
  | @accepted packet answer room =>
    exact .ok (.inr ⟨rfl, { going with
      follows := first.accept positive room soon answer
      spaced := spaced
      ranked := carries.ranked.fire pending
      priority := carries.priority }⟩)
  | refused => exact .ok (.inl ⟨_, rfl, _, rfl⟩)
  | @delivered packet =>
    exact .ok (.inr ⟨rfl, { going with
      accounted := carries.accounted.receive packet _
      notices := carries.notices.receive noticed packet
      follows := first.deliver
      spaced := spaced
      ranked := carries.ranked.fire pending
      priority := carries.priority }⟩)

omit positive within in
theorem Carries.spaced_succ (fires : (entry.tick, entry.payload) = (clock, SimulationEvent.clock)) :
    Crossing.Spaced config.link travelling (clock + 1) where
  ahead := by
    obtain ⟨rfl, payload⟩ := Prod.mk.inj fires
    exact fun _ => Crossing.lt_arrival carries.awaits carries.ranked pending payload
  behind instant unit event member :=
    Nat.lt_succ_of_lt (carries.spaced.behind instant unit event member)

theorem Carries.tick_step (some_request : 0 < config.workload.numRequests)
    (fires : (entry.tick, entry.payload) = (clock, SimulationEvent.clock)) :
    Gives Overflow (handle entry.payload
        { sim with rig := { sim.rig with events := sim.rig.events.after entry rest } })
      fun result => result.1 = none ∧
        LinkLags config limit (3 * (limit - clock) + travelling.length + 2) result.2 := by
  have awaits := carries.awaits
  obtain ⟨rfl, payload⟩ := Prod.mk.inj fires
  have fired : (sim.rig.events.after entry rest).Awaits (travelling.map LinkEvent.arrival) :=
    awaits.fire pending (.of_eq (by rw [payload]))
  let before : Crossing := { sim.rig with events := sim.rig.events.after entry rest }
  have elapsed : sim.rig.now ≤ before.events.now := awaits.now_le pending
  have passed : Crossing.Follows config before travelling before.now before.now :=
    carries.follows.pass elapsed
  rw [payload]
  apply handle_gives
  apply tick_gives
  apply (passed.tick positive).mono
  rintro ⟨_, next⟩
    ⟨rfl, between, travelling', later, first, middle, second, follows, receipts, accounted⟩
  simp only at second follows receipts accounted
  refine ⟨rfl, ?_⟩
  have now : next.now = entry.tick := second.now.trans first.now
  have middleSpaced :=
    first.spaced passed.toSteady positive (carries.spaced_succ pending (by rw [payload]))
  rw [← show between.now = before.now from first.now] at middleSpaced
  have laterSpaced := second.spaced middle positive middleSpaced
  rw [first.now] at laterSpaced
  let after : Simulation FixedLatencyLink RecordedRequester RecordedMemory LinkEvent :=
    ⟨next, sim.clock.occurred, sim.finishedAt⟩
  have awaited : after.rig.events.Awaits (later.map LinkEvent.arrival) :=
    second.awaits middle positive (first.awaits passed.toSteady positive fired)
  have inside : after.now ≤ limit := Nat.le_trans (Nat.le_of_eq now) within
  have notices : Notices config config.link.Delays next.requester after.now := by
    intro receipt found
    rw [receipts] at found
    rw [show after.now = entry.tick from now]
    exact carries.notices receipt found
  have concluded := Going.conclude some_request awaited
    (RepeatingEvent.canSchedule_occurred carries.going) carries.going carries.unfinished inside
    follows.workload (accounted carries.accounted) notices
  apply concluded.mono
  rintro final (⟨finished, rfl, done⟩ | ⟨missing, rfl, going⟩)
  · obtain ⟨-, responses, -, none, -⟩ := follows.drained finished
    obtain rfl : later = [] := List.eq_nil_of_length_eq_zero none
    have drained : next.events.pending = [] := List.map_eq_nil_iff.1 awaited.agenda.eq_nil
    refine ⟨rfl, .inr ⟨drained, after.now, done rfl, ?_⟩⟩
    have same : sim.rig.requester.peer.stats.responses = config.workload.numRequests := by
      rw [← responses, carries.accounted, accounted carries.accounted, receipts]
    rw [show after.now = entry.tick from now]
    exact passed.lags.answered _ (by
      change _ < sim.rig.requester.peer.stats.responses + _
      omega)
  · have short := second.length_le
    have short' := first.length_le
    rw [show after.now = entry.tick from now] at going
    exact ⟨rfl, .inl ⟨entry.tick + 1, later, { going with
      follows := { follows with }
      spaced := laterSpaced
      ranked := (second.ranked (first.ranked (carries.ranked.fire pending))).schedule
        carries.priority _
      priority := carries.priority }, by omega⟩⟩

end

theorem linkLags_descends (positive : config.Positive)
    (some_request : 0 < config.workload.numRequests) (limit : Nat) :
    Descends Overflow limit LinkFails (LinkLags config limit) := by
  rintro measure sim entry rest (⟨clock, travelling, carries, enough⟩ | ⟨drained, -⟩) pending within
  · rcases List.mem_cons.1 (carries.awaits.fires pending) with fires | arrives
    · obtain ⟨rfl, -⟩ := Prod.mk.inj fires
      apply (carries.tick_step positive pending within some_request fires).mono
      rintro result ⟨none, next⟩
      exact ⟨_, by omega, .inr ⟨none, next⟩⟩
    · obtain ⟨event, member, fires⟩ := List.mem_map.1 arrives
      have shorter := List.length_erase_of_mem member
      have some_packet := List.length_pos_of_mem member
      apply (carries.arrive_step positive pending within member fires).mono
      rintro result (failed | ⟨none, next⟩)
      · exact ⟨0, by omega, .inl failed⟩
      · exact ⟨3 * (limit + 1 - clock) + (travelling.erase event).length, by omega,
          .inr ⟨none, .inl ⟨clock, _, next, Nat.le_refl _⟩⟩⟩
  · rw [drained] at pending
    cases pending

/-- The run of a link ends later than the schedule says, unless memory is offered a request that it
does not take. -/
theorem link_concludes (positive : config.Positive)
    (some_request : 0 < config.workload.numRequests) (maxTicks : Nat) :
    Concludes (FixedLatencyLink.fresh config.link) config maxTicks LinkFails config.link.Delays
      fun ticks => config.answerTick (config.workload.numRequests - 1) < ticks := by
  let rig : Crossing := .assemble (FixedLatencyLink.fresh config.link)
    (Recorded.blank (RequestGenerator.fresh config.workload))
    (Recorded.blank (MemoryModel.idle config.memory))
  have follows : Crossing.Follows config (begun rig).rig [] 0 0 :=
    { opening_crossing positive with
      creates := {
        workload := rfl
        created := Nat.zero_le _
        window := Nat.zero_le _ }
      lags := RecordedMemory.idle_lags config }
  have ticking : (begun rig).Ticking 0 [] := begun_ticking EventQueue.awaits_empty rfl
  have ranked : (begun rig).rig.events.Ranked LinkEvent.rank :=
    begun_ranked EventQueue.ranked_empty
  have carries : Carries config maxTicks (begun rig) 0 [] :=
    { ticking with
      unfinished := rfl
      within := Nat.zero_le _
      workload := rfl
      accounted := rfl
      notices := nofun
      follows := follows
      spaced := ⟨fun _ => nofun, fun _ _ => nofun⟩
      ranked := ranked
      priority := rfl }
  refine concludes_of_descends
    (.ok ⟨rfl, EventQueue.awaits_empty, .inl ⟨0, [], carries, Nat.le_refl _⟩⟩)
    (linkLags_descends positive some_request maxTicks) config.link.exists_delays ?_
    (by simp only [List.length_nil]; omega)
  rintro measure sim (⟨clock, travelling, carries, -⟩ | ⟨-, ticks, finished⟩)
  · exact .inl ⟨clock, _, carries.toGoing⟩
  · exact .inr ⟨ticks, finished⟩

end Simulation

end GatedMemory
