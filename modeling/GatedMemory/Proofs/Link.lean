import GatedMemory.Proofs.Clocked
import GatedMemory.Proofs.Link.Actions

set_option autoImplicit false

namespace GatedMemory

theorem LinkConfig.validate_eq_ok_iff {config : LinkConfig} :
    config.validate = .ok () ↔ 0 < config.clockPeriod := by
  unfold validate
  split
  · simp only [reduceCtorEq, false_iff]
    omega
  · simp only [true_iff]
    omega

/-- No packet takes longer from one end of the link to the other. -/
def BenchmarkConfig.longestCrossing (config : BenchmarkConfig) : Nat :=
  (config.link.latency + 1) * config.link.clockPeriod

/-- The time that each unit of work may take. -/
def BenchmarkConfig.linkPace (config : BenchmarkConfig) : Nat :=
  config.memory.accessLatency + config.longestCrossing + 2

/-- Ticks within which a run completes. -/
def BenchmarkConfig.linkBudget (config : BenchmarkConfig) : Nat :=
  config.linkPace + config.linkPace * (4 * config.workload.numRequests)

namespace LinkEvent

def isRequest : LinkEvent → Bool
  | requestArrives _ => true
  | responseArrives _ => false

/-- The event of a simulation that brings a packet to the end of the link. -/
def arrival (event : Nat × LinkEvent) : Nat × SimulationEvent LinkEvent :=
  (event.1, .component event.2)

end LinkEvent

namespace FixedLatencyLink

def fresh (config : LinkConfig) : FixedLatencyLink :=
  { config, stalled := [], responsesBlocked := false }

theorem build_eq_ok {config : LinkConfig} (valid : config.validate = .ok ()) :
    build config = .ok (fresh config) := by
  simp only [build, valid]
  rfl

structure Quiescent (link : FixedLatencyLink) : Prop where
  stalled : link.stalled = []
  unblocked : link.responsesBlocked = false

end FixedLatencyLink

namespace Crossing

variable {config : BenchmarkConfig} {rig : Crossing} {travelling : List (Nat × LinkEvent)}

/-- The work left: each request has to enter the link, leave it, be served, and its response to come
back. -/
def work (rig : Crossing) (travelling : List (Nat × LinkEvent)) : Nat :=
  4 * (rig.requester.peer.workload.numRequests - rig.requester.peer.stats.issued) +
    2 * rig.memory.peer.serving.length +
    (2 * travelling.countP (fun event => event.2.isRequest) + travelling.length)

theorem work_cons_request (rig : Crossing) (tick : Nat) (packet : Packet) :
    rig.work ((tick, .requestArrives packet) :: travelling) = rig.work travelling + 3 := by
  unfold work
  rw [List.countP_cons_of_pos rfl, List.length_cons]
  omega

theorem work_cons_response (rig : Crossing) (tick : Nat) (packet : Packet) :
    rig.work ((tick, .responseArrives packet) :: travelling) = rig.work travelling + 1 := by
  unfold work
  rw [List.countP_cons_of_neg Bool.false_ne_true, List.length_cons]
  omega

/-- What holds between any two actions, with these packets on the link. No peer has ever refused
one. -/
structure Steady (config : BenchmarkConfig) (rig : Crossing)
    (travelling : List (Nat × LinkEvent)) : Prop
    extends Rig.Conforms config rig travelling.length where
  unblocked : rig.memory.peer.responseBlocked = false
  configured : rig.component.config = config.link
  quiescent : rig.component.Quiescent
  held : rig.requester.peer.held = none
  free : rig.requester.peer.awaitsRetry = false
  unowed : rig.memory.peer.owesRetry = false
  window : rig.requester.peer.stats.issued ≤
    rig.requester.peer.stats.responses + config.workload.maxOutstanding
  soon : ∀ event ∈ travelling, event.1 ≤ rig.now + config.longestCrossing
  plain : ∀ event ∈ travelling, ∀ packet, event.2 = .requestArrives packet → packet.IsAccess

namespace Steady

variable (steady : Steady config rig travelling)
include steady

theorem reorder {travelling' : List (Nat × LinkEvent)} (same : travelling.Perm travelling') :
    Steady config rig travelling' :=
  { steady with
    count := by rw [← same.length_eq]; exact steady.count
    soon := fun event member => steady.soon event (same.mem_iff.2 member)
    plain := fun event member => steady.plain event (same.mem_iff.2 member) }

theorem pass {events : EventQueue (SimulationEvent LinkEvent)} (passed : rig.now ≤ events.now) :
    Steady config { rig with events } travelling :=
  { steady with
    served := (steady.toConforms.wait passed).served
    soon := fun event member =>
      Nat.le_trans (steady.soon event member) (Nat.add_le_add_right passed _) }

/-- Memory has room for a request on the link, since that one is in flight too. -/
theorem hasRoom (window : config.workload.maxOutstanding ≤ config.memory.maxOutstanding)
    (some_packet : travelling ≠ []) : rig.memory.peer.hasRoom = true := by
  have count := steady.count
  have flying := steady.window
  have positive := List.length_pos_iff.2 some_packet
  rw [RecordedMemory.hasRoom_iff, steady.memory]
  omega

omit steady in
theorem accept {tick : Nat} {packet : Packet}
    (steady : Steady config rig ((tick, .requestArrives packet) :: travelling)) (answer : Packet) :
    Steady config { rig with memory := rig.memory.accepting packet answer rig.now } travelling :=
  { steady.toConforms.accept packet answer, steady with
    soon := fun other member => steady.soon other (List.mem_cons_of_mem _ member)
    plain := fun other member => steady.plain other (List.mem_cons_of_mem _ member) }

omit steady in
theorem deliver {tick : Nat} {packet : Packet}
    (steady : Steady config rig ((tick, .responseArrives packet) :: travelling)) :
    Steady config { rig with requester := rig.requester.receiving packet rig.now } travelling :=
  { steady.toConforms.receive packet rig.now, steady with
    window := Nat.le_trans steady.window (Nat.add_le_add_right (Nat.le_succ _) _)
    soon := fun other member => steady.soon other (List.mem_cons_of_mem _ member)
    plain := fun other member => steady.plain other (List.mem_cons_of_mem _ member) }

theorem handle {event : Nat × LinkEvent} (member : event ∈ travelling) :
    rig.Arrives event.2 (FixedLatencyLink.handle event.2 rig) :=
  handle_arrives steady.quiescent.unblocked (steady.plain event member)

theorem arrive (window : config.workload.maxOutstanding ≤ config.memory.maxOutstanding)
    {event : Nat × LinkEvent} {left : List (Nat × LinkEvent)}
    (split : travelling.Perm (event :: left)) : ∃ next : Crossing,
    FixedLatencyLink.handle event.2 rig = (none, next) ∧ Steady config next left ∧
      next.events = rig.events ∧ next.work left < rig.work travelling := by
  have first := steady.reorder split
  have before : rig.work travelling = rig.work (event :: left) := by
    simp only [work, split.countP_eq, split.length_eq]
  rw [before]
  have room := first.hasRoom window (List.cons_ne_nil _ _)
  have arrives := first.handle List.mem_cons_self
  obtain ⟨tick, event⟩ := event
  generalize FixedLatencyLink.handle event rig = outcome at arrives
  cases arrives with
  | @accepted packet answer =>
    refine ⟨_, rfl, first.accept answer, rfl, ?_⟩
    rw [work_cons_request]
    simp only [work, RecordedMemory.accepting, Recorded.note, List.length_append,
      List.length_singleton]
    omega
  | refused full =>
    rw [room] at full
    cases full
  | @delivered packet =>
    have same : (rig.requester.receiving packet rig.now).peer.stats.issued =
        rig.requester.peer.stats.issued := rfl
    have workload : (rig.requester.receiving packet rig.now).peer.workload =
        rig.requester.peer.workload := rfl
    refine ⟨_, rfl, first.deliver, rfl, ?_⟩
    rw [work_cons_response]
    simp only [work, same, workload]
    omega

theorem period (positive : config.Positive) : 0 < rig.component.config.clockPeriod :=
  steady.configured ▸ positive.linkPeriod

/-- A packet that enters the link is on it, and arrives in time. -/
theorem sent_soon (positive : config.Positive) (event : LinkEvent) :
    ∀ other ∈ (FixedLatencyLink.arrivalTick rig, event) :: travelling,
      other.1 ≤ rig.now + config.longestCrossing := by
  have below : FixedLatencyLink.arrivalTick rig < rig.now +
      (rig.component.config.latency + 1) * rig.component.config.clockPeriod :=
    Clock.edge_lt (steady.period positive)
  rw [steady.configured] at below
  intro other member
  rcases List.mem_cons.1 member with rfl | member
  · exact Nat.le_of_lt below
  · exact steady.soon other member

theorem release (positive : config.Positive) {due : Nat} {answer : Packet}
    {rest : List (Nat × Packet)} (serving : rig.memory.peer.serving = (due, answer) :: rest) :
    Steady config (FixedLatencyLink.carrying { rig with memory := rig.memory.withServing rest }
        (.responseArrives answer))
      ((FixedLatencyLink.arrivalTick rig, .responseArrives answer) :: travelling) :=
  { steady.toConforms.release serving, steady with
    soon := steady.sent_soon positive (.responseArrives answer)
    plain := by
      intro other member packet request
      rcases List.mem_cons.1 member with rfl | member
      · cases request
      · exact steady.plain other member packet request }

/-- A request leaves the requester and enters the link. -/
theorem send (positive : config.Positive) {packet : Packet} {source : RequestGenerator}
    (offers : rig.requester.peer.Offers rig.now packet source) :
    Steady config (FixedLatencyLink.carrying
        { rig with requester := { rig.requester with peer := source.accepted } }
        (.requestArrives packet))
      ((FixedLatencyLink.arrivalTick rig, .requestArrives packet) :: travelling) := by
  obtain ⟨held, free, stats, -⟩ := offers.after
  have room : rig.requester.peer.inFlight < rig.requester.peer.workload.maxOutstanding := by
    cases offers with
    | held _ holds =>
      rw [steady.held] at holds
      cases holds
    | created _ _ creates => exact (RequestGenerator.canCreate_iff.1 creates).2
  refine { steady.toConforms.issue offers, steady with
    held := held
    free := free
    window := ?_
    soon := steady.sent_soon positive (.requestArrives packet)
    plain := ?_ }
  · change source.stats.issued + 1 ≤ source.stats.responses + config.workload.maxOutstanding
    rw [stats, ← steady.workload]
    unfold RequestGenerator.inFlight at room
    omega
  · intro other member packet' request
    rcases List.mem_cons.1 member with rfl | member
    · cases request
      exact offers.access steady.regular
    · exact steady.plain other member packet' request

/-- The event of a packet that enters the link is to come. -/
theorem carry (positive : config.Positive)
    (awaits : rig.events.Awaits (travelling.map LinkEvent.arrival)) (event : LinkEvent) :
    (FixedLatencyLink.carrying rig event).events.Awaits
      (((FixedLatencyLink.arrivalTick rig, event) :: travelling).map LinkEvent.arrival) := by
  have future : rig.events.now ≤ FixedLatencyLink.arrivalTick rig :=
    Clock.le_edge (steady.period positive)
  exact awaits.schedule future _ _

theorem serve (positive : config.Positive)
    (awaits : rig.events.Awaits (travelling.map LinkEvent.arrival)) {next : Crossing}
    (serves : rig.Serves next) : ∃ travelling' : List (Nat × LinkEvent),
      Steady config next travelling' ∧ next.now = rig.now ∧
      next.events.Awaits (travelling'.map LinkEvent.arrival) ∧
      (next.work travelling' < rig.work travelling ∨ next = rig ∧ travelling' = travelling ∧
        ∀ entry ∈ rig.memory.peer.serving.head?, rig.now < entry.1) := by
  cases serves with
  | idle quiet =>
    rcases quiet with blocked | later
    · rw [steady.unblocked] at blocked
      cases blocked
    · exact ⟨travelling, steady, rfl, awaits, .inr ⟨rfl, rfl, later⟩⟩
  | @sent due answer rest unblocked serving ready =>
    refine ⟨_, steady.release positive serving, rfl,
      steady.carry positive awaits (.responseArrives answer), .inl ?_⟩
    rw [work_cons_response]
    simp only [work, FixedLatencyLink.carrying, RecordedMemory.withServing, serving,
      List.length_cons]
    omega

theorem retry : Simulation.passRetry rig = rig := by
  simp only [Simulation.passRetry, RecordedMemory.settleRetry_of_idle (.inl steady.unowed),
    Bool.false_eq_true, ↓reduceIte]

theorem issue (positive : config.Positive)
    (awaits : rig.events.Awaits (travelling.map LinkEvent.arrival)) {next : Crossing}
    (issues : rig.Issues next) : ∃ travelling' : List (Nat × LinkEvent),
      Steady config next travelling' ∧ next.now = rig.now ∧
      next.events.Awaits (travelling'.map LinkEvent.arrival) ∧
      (next.work travelling' < rig.work travelling ∨ next = rig ∧ travelling' = travelling ∧
        (travelling = [] → rig.memory.peer.serving = [] →
          rig.requester.peer.isFinished = true)) := by
  cases issues with
  | idle quiet =>
    refine ⟨travelling, steady, rfl, awaits, .inr ⟨rfl, rfl, fun empty idle => ?_⟩⟩
    by_contra unfinished
    subst empty
    rcases quiet with waits | ⟨held, none⟩
    · rw [steady.free] at waits
      cases waits
    · rcases steady.ready positive.window idle (Bool.eq_false_iff.2 unfinished) with holds | more
      · rw [held] at holds
        cases holds
      · rw [none] at more
        cases more
  | @sent packet source offers =>
    obtain ⟨-, -, stats, workload⟩ := offers.after
    have more := offers.created_eq steady.regular ▸ offers.created_le steady.regular
    refine ⟨_, steady.send positive offers, rfl,
      steady.carry positive awaits (.requestArrives packet), .inl ?_⟩
    rw [work_cons_request]
    simp only [work, FixedLatencyLink.carrying, RequestGenerator.accepted, stats, workload]
    omega

end Steady

/-- After a tick that does no work, a packet is on the link, or memory is still at its oldest
request, or the run is over. -/
theorem Steady.tick (steady : Steady config rig travelling) (positive : config.Positive)
    (awaits : rig.events.Awaits (travelling.map LinkEvent.arrival)) :
    Gives Overflow (Simulation.turns rig) fun result => result.1 = none ∧
      ∃ travelling' : List (Nat × LinkEvent),
        Steady config result.2 travelling' ∧ result.2.now = rig.now ∧
        result.2.events.Awaits (travelling'.map LinkEvent.arrival) ∧
        (work result.2 travelling' < rig.work travelling ∨ result.2 = rig ∧
          travelling' = travelling ∧
          (∀ entry ∈ rig.memory.peer.serving.head?, rig.now < entry.1) ∧
          (travelling = [] → rig.memory.peer.serving = [] →
            result.2.requester.peer.isFinished = true)) := by
  apply (serveResponse_serves (steady.period positive) fun _ => .overflow).bind
  intro served serves
  obtain ⟨between, first, servedNow, servedAwaits, serving⟩ := steady.serve positive awaits serves
  rw [first.retry]
  apply (issueRequest_issues first.regular (first.period positive) .overflow
    fun _ _ _ => .overflow).mono
  rintro ⟨_, issued⟩ ⟨rfl, issues⟩
  obtain ⟨travelling', second, issuedNow, issuedAwaits, issuing⟩ :=
    first.issue positive servedAwaits issues
  refine ⟨rfl, travelling', second, issuedNow.trans servedNow, issuedAwaits, ?_⟩
  rcases serving with less | ⟨rfl, rfl, later⟩ <;> rcases issuing with less' | ⟨rfl, rfl, ended⟩
  case inr.inr => exact .inr ⟨rfl, rfl, later, ended⟩
  all_goals exact .inl (by omega)

end Crossing

namespace Simulation

variable {config : BenchmarkConfig} {limit : Nat}
  {sim : Simulation FixedLatencyLink RecordedRequester RecordedMemory LinkEvent}
  {travelling : List (Nat × LinkEvent)}

/-- Between two events. A packet on the link arrives by the deadline; if there is none, then by the
deadline the clock comes, and the oldest response is due. -/
structure Linked (config : BenchmarkConfig) (limit work turns deadline : Nat)
    (sim : Simulation FixedLatencyLink RecordedRequester RecordedMemory LinkEvent) (clock : Nat)
    (travelling : List (Nat × LinkEvent)) : Prop where
  steady : Crossing.Steady config sim.rig travelling
  ticking : sim.Ticking clock (travelling.map LinkEvent.arrival)
  left : Crossing.work sim.rig travelling = work
  turns : limit + 1 - clock ≤ turns
  due : (∃ event ∈ travelling, event.1 ≤ deadline) ∨ travelling = [] ∧ clock ≤ deadline ∧
    ∀ entry ∈ sim.rig.memory.peer.serving.head?, entry.1 ≤ deadline

/-- Whatever is on its way comes within the pace. -/
theorem linked_of_steady {turns clock : Nat} (steady : Crossing.Steady config sim.rig travelling)
    (ticking : sim.Ticking clock (travelling.map LinkEvent.arrival))
    (bound : limit + 1 - clock ≤ turns) :
    Linked config limit (Crossing.work sim.rig travelling) turns (sim.now + config.linkPace) sim
      clock travelling where
  steady := steady
  ticking := ticking
  left := rfl
  turns := bound
  due := by
    have now : sim.rig.now = sim.now := rfl
    unfold BenchmarkConfig.linkPace
    cases travelling with
    | nil =>
      refine .inr ⟨rfl, ?_, fun entry member => ?_⟩
      · have soon := ticking.soon
        omega
      · have soon := steady.served entry (List.mem_of_mem_head? member)
        omega
    | cons event others =>
      have soon := steady.soon event List.mem_cons_self
      exact .inl ⟨event, List.mem_cons_self, by omega⟩

variable {work turns deadline clock : Nat}
  (linked : Linked config limit work turns deadline sim clock travelling)
  (workable : config.Workable)
  {entry : EventEntry (SimulationEvent LinkEvent)}
  {rest : List (EventEntry (SimulationEvent LinkEvent))}
  (pending : sim.rig.events.pending = entry :: rest)
include linked pending

theorem Linked.arrive_step (window : config.workload.maxOutstanding ≤ config.memory.maxOutstanding)
    {event : Nat × LinkEvent} (member : event ∈ travelling)
    (fires : LinkEvent.arrival event = (entry.tick, entry.payload)) :
    Gives Overflow (handle entry.payload
        { sim with rig := { sim.rig with events := sim.rig.events.after entry rest } })
      fun result => result.1 = none ∧ ∃ less < work, ∃ clock travelling,
        Linked config limit less turns (entry.tick + config.linkPace) result.2 clock
          travelling := by
  have awaits := linked.ticking.awaits
  have payload : entry.payload = .component event.2 := (congrArg Prod.snd fires).symm
  let before : Crossing := { sim.rig with events := sim.rig.events.after entry rest }
  have elapsed : sim.rig.now ≤ before.events.now := awaits.now_le pending
  have passed : Crossing.Steady config before travelling := linked.steady.pass elapsed
  have split := List.perm_cons_erase member
  obtain ⟨next, arrives, steady, events, less⟩ := passed.arrive window split
  have fired : (sim.rig.events.after entry rest).Awaits
      ((clock, .clock) :: (travelling.erase event).map LinkEvent.arrival) := by
    refine awaits.fire pending ?_
    rw [← fires]
    exact ((split.map LinkEvent.arrival).cons _).trans (.swap _ _ _)
  have ticking : Ticking { sim with rig := next } clock
      ((travelling.erase event).map LinkEvent.arrival) := {
    awaits := events ▸ fired
    soon := by
      have soon := linked.ticking.soon
      have now : next.now = entry.tick := congrArg EventQueue.now events
      have later : sim.now ≤ entry.tick := elapsed
      change clock ≤ next.now + 1
      omega
    going := linked.ticking.going }
  have now : ({ sim with rig := next } : Simulation _ _ _ _).now = entry.tick :=
    congrArg EventQueue.now events
  rw [payload]
  apply handle_gives
  simp only [react, Intermediary.handle, before] at arrives ⊢
  rw [arrives]
  refine .ok ⟨rfl, _, ?_, clock, _, now ▸ linked_of_steady steady ticking linked.turns⟩
  rw [← linked.left]
  exact less

theorem Linked.tick_step (workable : config.Workable) (within : entry.tick ≤ limit)
    (fires : (entry.tick, entry.payload) = (clock, SimulationEvent.clock)) :
    Gives Overflow (handle entry.payload
        { sim with rig := { sim.rig with events := sim.rig.events.after entry rest } })
      fun result => result.1 = none ∧
        ((result.2.map Recorded.peer Recorded.peer).Complete config
            FixedLatencyLink.Quiescent ∨
          (∃ less < work, ∃ clock travelling, Linked config limit less turns
            (entry.tick + config.linkPace) result.2 clock travelling) ∨
          ∃ fewer < turns, ∃ clock travelling,
            Linked config limit work fewer deadline result.2 clock travelling) := by
  have awaits := linked.ticking.awaits
  obtain ⟨rfl, payload⟩ := Prod.mk.inj fires
  have fired : (sim.rig.events.after entry rest).Awaits (travelling.map LinkEvent.arrival) :=
    awaits.fire pending (.of_eq (by rw [payload]))
  let before : Crossing := { sim.rig with events := sim.rig.events.after entry rest }
  have elapsed : sim.rig.now ≤ before.events.now := awaits.now_le pending
  have passed : Crossing.Steady config before travelling := linked.steady.pass elapsed
  rw [payload]
  apply handle_gives
  apply tick_gives
  apply (Crossing.Steady.tick passed workable.toPositive fired).mono
  rintro ⟨_, next⟩ ⟨rfl, travelling', steady, now, awaited, progress⟩
  simp only at steady now awaited progress
  refine ⟨rfl, ?_⟩
  let after : Simulation FixedLatencyLink RecordedRequester RecordedMemory LinkEvent :=
    ⟨next, sim.clock.occurred, sim.finishedAt⟩
  have afterNow : after.now = entry.tick := now
  cases finished : next.requester.peer.isFinished with
  | true =>
    have complete : Gives Overflow after.finishOrContinue fun final =>
        (final.map Recorded.peer Recorded.peer).Complete config FixedLatencyLink.Quiescent := by
      refine finish_of_conforms steady.toConforms finished rfl steady.quiescent fun none => ?_
      rw [List.eq_nil_of_length_eq_zero none] at awaited
      exact awaited
    exact complete.mono fun final complete => ⟨rfl, .inl complete⟩
  | false =>
    have left : Crossing.work before travelling = work := linked.left
    have bound := linked.turns
    have ticking := awaitingTick_ticking after awaited linked.ticking.going
    have going : Crossing.Steady config after.awaitingTick.rig travelling' := { steady with }
    apply (finishOrContinue_of_free finished
      (RepeatingEvent.canSchedule_occurred linked.ticking.going)).mono
    rintro _ rfl
    refine ⟨rfl, .inr ?_⟩
    rcases progress with less | ⟨rfl, rfl, later, ended⟩
    · have soon : limit + 1 - (after.now + 1) ≤ turns := by omega
      exact .inl ⟨_, left ▸ less, _, _, afterNow ▸ linked_of_steady going ticking soon⟩
    · refine .inr ⟨limit + 1 - (entry.tick + 1), by omega, _, _, going, ticking, left, ?_, ?_⟩
      · omega
      · rcases linked.due with some_due | ⟨rfl, -, served⟩
        · exact .inl some_due
        · refine .inr ⟨rfl, ?_, served⟩
          have busy : sim.rig.memory.peer.serving ≠ [] := by
            intro idle
            have finishes := ended rfl idle
            rw [finished] at finishes
            cases finishes
          have soon : entry.tick + 1 ≤ deadline := Rig.succ_le_deadline busy later served
          omega

omit linked pending in
theorem linked_paced (workable : config.Workable)
    (window : config.workload.maxOutstanding ≤ config.memory.maxOutstanding) (limit : Nat) :
    Paced limit config.linkPace
      (fun work turns deadline sim => ∃ clock travelling,
        Linked config limit work turns deadline sim clock travelling)
      fun sim =>
        (sim.map Recorded.peer Recorded.peer).Complete config FixedLatencyLink.Quiescent where
  step := by
    rintro work turns deadline sim entry rest ⟨clock, travelling, linked⟩ pending within
    rcases List.mem_cons.1 (linked.ticking.awaits.fires pending) with fires | arrives
    · exact linked.tick_step pending workable within fires
    · obtain ⟨event, member, fires⟩ := List.mem_map.1 arrives
      exact (linked.arrive_step pending window member fires).mono
        fun result kept => ⟨kept.1, .inr (.inl kept.2)⟩
  soon := by
    rintro work turns deadline sim ⟨clock, travelling, linked⟩
    rcases linked.due with ⟨event, member, soon⟩ | ⟨-, soon, -⟩
    · have arrives : LinkEvent.arrival event ∈
          (clock, .clock) :: travelling.map LinkEvent.arrival :=
        List.mem_cons_of_mem _ (List.mem_map_of_mem member)
      exact linked.ticking.awaits.exists_first arrives soon
    · exact linked.ticking.awaits.exists_first List.mem_cons_self soon
  drained complete := complete.events

omit linked pending in
theorem opening_crossing (positive : config.Positive) :
    Crossing.Steady config (begun (.assemble (FixedLatencyLink.fresh config.link)
      (Recorded.blank (RequestGenerator.fresh config.workload))
      (Recorded.blank (MemoryModel.idle config.memory))) : Simulation _ _ _ _).rig [] :=
  { (Rig.assemble_conforms (FixedLatencyLink.fresh config.link) positive.line :
      Rig.Conforms config (.assemble _ _ _ : Crossing) 0) with
    unblocked := rfl
    configured := rfl
    quiescent := ⟨rfl, rfl⟩
    held := rfl
    free := rfl
    unowed := rfl
    window := Nat.zero_le _
    soon := nofun
    plain := nofun }

omit linked pending in
/-- With enough ticks, the run of a link completes. -/
theorem link_completes (workable : config.Workable)
    (window : config.workload.maxOutstanding ≤ config.memory.maxOutstanding) {maxTicks : Nat}
    (budget : config.linkBudget ≤ maxTicks) :
    Completes (FixedLatencyLink.fresh config.link) config FixedLatencyLink.Quiescent maxTicks := by
  let rig : Crossing := .assemble (FixedLatencyLink.fresh config.link)
    (Recorded.blank (RequestGenerator.fresh config.workload))
    (Recorded.blank (MemoryModel.idle config.memory))
  have steady := opening_crossing workable.toPositive
  have ticking : (begun rig).Ticking 0 [] := begun_ticking EventQueue.awaits_empty rfl
  have linked := linked_of_steady steady ticking (Nat.le_refl (maxTicks + 1))
  have work : Crossing.work (begun rig).rig [] = 4 * config.workload.numRequests := rfl
  have now : (begun rig).now = 0 := rfl
  rw [work, now, Nat.zero_add] at linked
  exact completes_of_paced (.ok ⟨rfl, EventQueue.awaits_empty, ⟨0, [], linked⟩⟩)
    (linked_paced workable window maxTicks) (Nat.succ_pos _) (Nat.le_of_eq (Nat.mul_one _).symm)
    budget

end Simulation

end GatedMemory
