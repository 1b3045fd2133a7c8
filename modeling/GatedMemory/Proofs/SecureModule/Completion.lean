import GatedMemory.Proofs.Completion
import GatedMemory.Proofs.SecureModule.Progress

set_option autoImplicit false

namespace GatedMemory

/-- When a turn comes, if the clock and the driver come next at these ticks. After the driver has
told the requester that it can send again, the clock has to come once more. -/
def Turn.tick (clock edge : Nat) : Turn → Nat
  | forward | deliver => edge
  | settle => edge + 1
  | serve | retry | issue | finish => clock
  | check => 0

def BenchmarkConfig.pace (config : BenchmarkConfig) : Nat :=
  2 * config.secureModule.clockPeriod + config.memory.accessLatency +
    config.secureModule.longestCheck + 2

def BenchmarkConfig.moduleBudget (config : BenchmarkConfig) : Nat :=
  config.pace + config.pace * (5 * config.workload.numRequests)

namespace Pipeline

variable {config : BenchmarkConfig} {driver : RepeatingEvent} {pipe : Pipeline}
  {tickets : List Ticket} {others : List (Nat × SimulationEvent SecureEvent)}

/-- Some turn is expected by the deadline. -/
def Promises (pipe : Pipeline) (tickets : List Ticket) (clock edge deadline : Nat) : Prop :=
  ∃ turn due, pipe.Expects tickets turn due ∧ due ≤ deadline ∧ turn.tick clock edge ≤ deadline

theorem Steady.promises (steady : Steady config driver pipe tickets others)
    (workable : config.Workable) {clock edge : Nat} (clockSoon : clock ≤ pipe.now + 1)
    (edgeSoon : edge ≤ pipe.now + 2 * config.secureModule.clockPeriod) :
    pipe.Promises tickets clock edge (pipe.now + config.pace) := by
  obtain ⟨turn, due, expects, soon⟩ := steady.exists_expects workable
  refine ⟨turn, due, expects, ?_, ?_⟩
  · unfold BenchmarkConfig.pace
    omega
  · unfold BenchmarkConfig.pace
    cases turn <;> simp only [Turn.tick] <;> omega

/-- The event that brings the expected turn is among those to come. -/
theorem Steady.exists_first {clock edge deadline : Nat}
    (steady : Steady config driver pipe tickets
      [(clock, .clock), (edge, .component .edge)])
    (promises : pipe.Promises tickets clock edge deadline) :
    ∃ entry rest, pipe.events.pending = entry :: rest ∧ entry.tick ≤ deadline := by
  obtain ⟨turn, due, expects, soon, ticks⟩ := promises
  have awaits := steady.timed.awaits
  have clockEvent : (clock, SimulationEvent.clock) ∈
      [(clock, .clock), (edge, .component SecureEvent.edge)] ++
        (pipe.component.gate.unready tickets).map (Ticket.completion checkEvent) :=
    List.mem_cons_self
  have edgeEvent : (edge, SimulationEvent.component SecureEvent.edge) ∈
      [(clock, .clock), (edge, .component SecureEvent.edge)] ++
        (pipe.component.gate.unready tickets).map (Ticket.completion checkEvent) :=
    List.mem_cons_of_mem _ List.mem_cons_self
  cases expects with
  | deliver => exact awaits.exists_first edgeEvent ticks
  | forward => exact awaits.exists_first edgeEvent ticks
  | settle => exact awaits.exists_first edgeEvent (Nat.le_of_succ_le ticks)
  | serve => exact awaits.exists_first clockEvent ticks
  | retry => exact awaits.exists_first clockEvent ticks
  | issue => exact awaits.exists_first clockEvent ticks
  | finish => exact awaits.exists_first clockEvent ticks
  | @check ticket waits =>
    exact awaits.exists_first (List.mem_append_right _ (List.mem_map_of_mem waits)) soon

/-- What the turns of the clock leave, without work done. -/
theorem Steady.clockTurns (steady : Steady config driver pipe tickets others)
    (workable : config.Workable) (backed : pipe.Backed) {served retried issued : Pipeline}
    (serves : pipe.Serves served) (retries : served.Retries retried)
    (issues : retried.Issues (none, issued)) :
    ∃ later, Steady config driver issued later others ∧ issued.Backed ∧ issued.now = pipe.now ∧
      (issued.work later < pipe.work tickets ∨ issued.work later = pipe.work tickets ∧
        ∀ turn due, pipe.Expects tickets turn due → issued.Expects later turn due ∧
          (turn = .serve ∨ turn = .retry ∨ turn = .issue → pipe.now < due)) := by
  have servedNow : served.now = pipe.now := by cases serves <;> rfl
  have retriedNow : retried.now = pipe.now := by
    rw [← servedNow]
    cases retries <;> rfl
  have issuedNow : issued.now = pipe.now := by
    rw [← retriedNow]
    cases issues <;> rfl
  obtain ⟨first, firstBacked, serve⟩ := steady.serve workable backed serves
  obtain ⟨between, second, secondBacked, retry⟩ := first.retry workable firstBacked retries
  obtain ⟨later, third, thirdBacked, issue⟩ := second.issue workable secondBacked issues
  refine ⟨later, third, thirdBacked, issuedNow, ?_⟩
  rw [servedNow] at retry
  rw [retriedNow] at issue
  rcases serve with less | ⟨same, serve⟩ <;> rcases retry with less' | ⟨same', retry⟩ <;>
    rcases issue with less'' | ⟨same'', issue⟩
  case inr.inr.inr =>
    refine .inr ⟨by omega, fun turn due expects => ?_⟩
    obtain ⟨one, served⟩ := serve turn due expects
    obtain ⟨two, retried⟩ := retry turn due one
    obtain ⟨three, issued⟩ := issue turn due two
    exact ⟨three, fun own => own.elim served fun own => own.elim retried issued⟩
  all_goals exact .inl (by omega)

theorem Expects.due_eq_zero {turn : Turn} {due : Nat} (expects : pipe.Expects tickets turn due)
    (own : turn = .forward ∨ turn = .deliver) : due = 0 := by
  cases expects <;> simp at own <;> rfl

/-- What the turns of the driver leave, without work done. -/
theorem Steady.edgeTurns (steady : Steady config driver pipe tickets others)
    (workable : config.Workable) : ∃ later,
    Steady config driver.occurred (SecureModule.edgeWork pipe) later others ∧
    Backed (SecureModule.edgeWork pipe) ∧
    (work (SecureModule.edgeWork pipe) later < pipe.work tickets ∨
      work (SecureModule.edgeWork pipe) later = pipe.work tickets ∧
      ∀ turn due, pipe.Expects tickets turn due →
        turn = .settle ∧ Expects (SecureModule.edgeWork pipe) later .issue 0 ∨
        turn ≠ .forward ∧ turn ≠ .deliver ∧ turn ≠ .settle ∧
          Expects (SecureModule.edgeWork pipe) later turn due) := by
  have fired : Steady config driver.occurred (SecureModule.edgeFired pipe) tickets others :=
    { steady with
      ordered := { steady.ordered with }
      driven := congrArg RepeatingEvent.occurred steady.driven
      names := nofun }
  obtain ⟨later, first, forward⟩ := fired.forward workable
    (SecureModule.sendRequest_forwards fired.ordered.plain)
  rw [← SecureModule.drainRequest_eq] at first forward
  obtain ⟨second, deliver⟩ := first.deliver SecureModule.sendResponse_delivers
  rw [← SecureModule.drainResponse_eq] at second deliver
  obtain ⟨third, thirdWork, settle⟩ := second.settleRequestRetry
  obtain ⟨fourth, fourthWork, backed, kept⟩ := third.settleResponseRetry
  refine ⟨later, fourth, backed, ?_⟩
  have firedWork : work (SecureModule.edgeFired pipe) tickets = pipe.work tickets := rfl
  have sameWork : work (SecureModule.edgeWork pipe) later =
      work (SecureModule.drainResponse (SecureModule.drainRequest (SecureModule.edgeFired pipe)))
        later := fourthWork.trans thirdWork
  rcases forward with less | ⟨same, forward⟩
  · rcases deliver with less' | ⟨same', -⟩ <;> exact .inl (by omega)
  · rcases deliver with less' | ⟨same', deliver⟩
    · exact .inl (by omega)
    · refine .inr ⟨by omega, fun turn due expects => ?_⟩
      have started : Expects (SecureModule.edgeFired pipe) tickets turn due :=
        expects.congr rfl rfl rfl rfl rfl rfl
      obtain ⟨one, forwarded⟩ := forward turn due started
      obtain ⟨two, delivered⟩ := deliver turn due one
      rcases settle turn due two with ⟨own, issue⟩ | ⟨other, three⟩
      · exact .inl ⟨own, kept _ _ issue⟩
      · refine .inr ⟨?_, ?_, other, kept _ _ three⟩
        · intro own
          have zero := expects.due_eq_zero (.inl own)
          exact absurd (forwarded own) (by omega)
        · intro own
          have zero := expects.due_eq_zero (.inr own)
          exact absurd (delivered own) (by omega)

theorem Steady.scheduleClock (steady : Steady config driver pipe tickets others) {tick : Nat}
    (future : pipe.now ≤ tick) (priority : Int) :
    Steady config driver { pipe with events := pipe.events.scheduled tick priority .clock } tickets
      ((tick, .clock) :: others) :=
  { steady with
    ordered := { steady.ordered with }
    timed := steady.timed.schedule future priority _
    names := by
      intro id known entry member edge
      rcases EventQueue.mem_scheduled.1 member with rfl | member
      · cases edge
      · exact steady.names id known entry member edge }

theorem Steady.awaitingEdge (steady : Steady config driver pipe tickets others)
    (apart : ∀ other ∈ others, other.2 ≠ .component .edge) :
    Steady config (driver.awaiting pipe.events) (SecureModule.awaitingEdge pipe) tickets
      ((Clock.edge pipe.now 1 pipe.component.config.clockPeriod, .component .edge) :: others) :=
  { steady with
    ordered := { steady.ordered with }
    driven := by rw [← steady.driven]; rfl
    timed := steady.timed.schedule (Clock.le_edge steady.ordered.period) _ _
    names := by
      intro id known entry member edge
      obtain rfl : pipe.events.nextId = id := Option.some.inj known
      rcases EventQueue.mem_scheduled.1 member with rfl | member
      · rfl
      · have event : (entry.tick, entry.payload) ∈ pipe.events.agenda :=
          List.mem_map.2 ⟨entry, member, rfl⟩
        have awaited := steady.timed.awaits.agenda.mem_iff.1 event
        rcases List.mem_append.1 awaited with other | completion
        · exact absurd edge (apart _ other)
        · obtain ⟨ticket, -, completes⟩ := List.mem_map.1 completion
          have payload : checkEvent ticket.slot = entry.payload := congrArg Prod.snd completes
          rw [← payload] at edge
          cases edge }

/-- Once the requester waits for nothing, nothing is on its way. -/
theorem Steady.drained (steady : Steady config driver pipe tickets others)
    (finished : pipe.requester.peer.isFinished = true) :
    pipe.requester.peer.stats.issued = config.workload.numRequests ∧
    pipe.requester.peer.stats.responses = config.workload.numRequests ∧
    pipe.component.gate.responses.items = [] ∧ pipe.memory.peer.serving = [] ∧
    pipe.component.gate.requests.items = [] ∧ pipe.requester.peer.held = none := by
  obtain ⟨issued, responses, serving, none, held⟩ := steady.conforms.drained finished
  obtain ⟨noResponse, noRequest⟩ := Nat.add_eq_zero_iff.1 none
  exact ⟨issued, responses, List.eq_nil_of_length_eq_zero noResponse, serving,
    List.eq_nil_of_length_eq_zero noRequest, held⟩

end Pipeline

/-- Nothing is queued, no slot is in use, and no flag is up. -/
structure SecureModule.Quiescent (module : SecureModule) : Prop where
  requests : module.gate.requests.items = []
  responses : module.gate.responses.items = []
  slots : module.gate.slots.inUse = 0
  towardRequester : module.gate.towardRequester = { blocked := false, owesRetry := false }
  towardMemory : module.gate.towardMemory = { blocked := false, owesRetry := false }

namespace Pipeline

variable {config : BenchmarkConfig} {driver : RepeatingEvent} {pipe : Pipeline}
  {tickets : List Ticket} {edge : Nat}

theorem Steady.quiescent {others : List (Nat × SimulationEvent SecureEvent)}
    (steady : Steady config driver pipe tickets others) (backed : pipe.Backed)
    (finished : pipe.requester.peer.isFinished = true) : pipe.component.Quiescent := by
  obtain ⟨-, -, responses, -, requests, held⟩ := steady.drained finished
  have blocked : pipe.component.gate.towardMemory.blocked = false := by
    refine Bool.eq_false_iff.2 fun blocked => ?_
    obtain ⟨-, head, first, -⟩ := steady.blocked blocked
    rw [requests] at first
    cases first
  have waits : pipe.memory.peer.responseBlocked = false :=
    Bool.eq_false_iff.2 fun waits => backed waits responses
  have awaits : pipe.requester.peer.awaitsRetry = false := by
    refine Bool.eq_false_iff.2 fun awaits => ?_
    have some_held := steady.held awaits
    rw [held] at some_held
    cases some_held
  refine ⟨requests, responses, ?_, ?_, ?_⟩
  · rw [steady.timed.tracks.count, ← steady.timed.tracks.length_eq, requests]
    rfl
  · exact congrArg₂ FlowFlags.mk steady.unblocked (steady.awaits.trans awaits)
  · exact congrArg₂ FlowFlags.mk blocked (steady.owed.trans waits)

/-- The driver's edge is the only event left, and stopping the driver cancels it. -/
theorem Steady.stop_pending (steady : Steady config driver pipe tickets [(edge, .component .edge)])
    (active : driver.pending.isSome = true)
    (finished : pipe.requester.peer.isFinished = true) :
    (SecureModule.stop pipe).events.pending = [] := by
  obtain ⟨id, known⟩ := Option.isSome_iff_exists.1 active
  obtain ⟨-, -, -, -, requests, -⟩ := steady.drained finished
  have length := steady.timed.tracks.length_eq
  rw [requests] at length
  obtain rfl : tickets = [] := List.eq_nil_of_length_eq_zero length.symm
  have agenda := steady.timed.awaits.agenda
  simp only [Gate.unready, List.filter_nil, List.map_nil, List.append_nil] at agenda
  obtain ⟨entry, pending, event⟩ := List.map_eq_singleton_iff.1 (List.perm_singleton.1 agenda)
  have named : entry.id = id := by
    apply steady.names id known entry
    · rw [pending]
      exact List.mem_singleton_self _
    · exact congrArg Prod.snd event
  have known' : pipe.component.driver.pending = some id := by rw [steady.driven, known]
  simp only [SecureModule.stop, RepeatingEvent.halt, known', Option.elim_some, EventQueue.cancel,
    pending, named, List.filter_cons, bne_self_eq_false, Bool.false_eq_true, ↓reduceIte,
    List.filter_nil]

end Pipeline

namespace Simulation

structure Running (config : BenchmarkConfig) (limit work turns deadline : Nat)
    (sim : Simulation SecureModule RecordedRequester RecordedMemory SecureEvent)
    (driver : RepeatingEvent) (tickets : List Ticket) (clock edge : Nat) : Prop where
  steady : Pipeline.Steady config driver sim.rig tickets
    [(clock, .clock), (edge, .component .edge)]
  backed : Pipeline.Backed sim.rig
  running : driver.stopped = false
  active : driver.pending.isSome = true
  going : sim.clock.stopped = false
  clockSoon : clock ≤ sim.now + 1
  edgeSoon : edge ≤ sim.now + 2 * config.secureModule.clockPeriod
  promises : Pipeline.Promises sim.rig tickets clock edge deadline
  left : Pipeline.work sim.rig tickets = work
  turns : (limit + 1 - clock) + (limit + 1 - edge) ≤ turns

def Active (config : BenchmarkConfig) (limit work turns deadline : Nat)
    (sim : Simulation SecureModule RecordedRequester RecordedMemory SecureEvent) : Prop :=
  ∃ driver tickets clock edge,
    Running config limit work turns deadline sim driver tickets clock edge

section

variable {config : BenchmarkConfig} {limit work turns deadline : Nat}
  {sim : Simulation SecureModule RecordedRequester RecordedMemory SecureEvent}
  {driver : RepeatingEvent} {tickets : List Ticket} {clock edge : Nat}
  {entry : EventEntry (SimulationEvent SecureEvent)}
  {rest : List (EventEntry (SimulationEvent SecureEvent))}

/-- The run is complete when the requester waits for nothing. -/
theorem finish_complete (steady : Pipeline.Steady config driver sim.rig tickets
      [(edge, .component .edge)]) (backed : Pipeline.Backed sim.rig)
    (active : driver.pending.isSome = true)
    (finished : RequestGenerator.isFinished sim.rig.requester.peer = true) :
    Gives Overflow sim.finishOrContinue fun final =>
      (final.map Recorded.peer Recorded.peer).Complete config SecureModule.Quiescent := by
  obtain ⟨issued, responses, -, serving, -, -⟩ := steady.drained finished
  have quiescent := steady.quiescent backed finished
  rw [finishOrContinue_of_finished finished]
  exact .ok {
    finished := rfl
    issued := issued
    responses := responses
    events := steady.stop_pending active finished
    served := congrArg List.length serving
    idle := { quiescent with } }

/-- Some turn is always expected within the pace. -/
theorem active_of_steady (workable : config.Workable)
    (steady : Pipeline.Steady config driver sim.rig tickets
      [(clock, .clock), (edge, .component .edge)])
    (backed : Pipeline.Backed sim.rig) (running : driver.stopped = false)
    (active : driver.pending.isSome = true) (going : sim.clock.stopped = false)
    (clockSoon : clock ≤ sim.now + 1)
    (edgeSoon : edge ≤ sim.now + 2 * config.secureModule.clockPeriod)
    (left : Pipeline.work sim.rig tickets = work)
    (bound : (limit + 1 - clock) + (limit + 1 - edge) ≤ turns) :
    Active config limit work turns (sim.now + config.pace) sim :=
  ⟨driver, tickets, clock, edge, {
    steady := steady
    backed := backed
    running := running
    active := active
    going := going
    clockSoon := clockSoon
    edgeSoon := edgeSoon
    promises := steady.promises workable clockSoon edgeSoon
    left := left
    turns := bound }⟩

variable (running : Running config limit work turns deadline sim driver tickets clock edge)
  (workable : config.Workable) (pending : sim.rig.events.pending = entry :: rest)
include running workable pending

theorem Running.check_step {ticket : Ticket}
    (waits : ticket ∈ sim.rig.component.gate.unready tickets)
    (completes : ticket.completion Pipeline.checkEvent = (entry.tick, entry.payload)) :
    Gives Overflow (handle entry.payload
        { sim with rig := { sim.rig with events := sim.rig.events.after entry rest } })
      fun result => result.1 = none ∧ ∃ less < work,
        Active config limit less turns (entry.tick + config.pace) result.2 := by
  obtain ⟨steady, less⟩ := running.steady.check pending waits completes
  have payload : entry.payload = .component (.checkOver ticket.slot) :=
    (congrArg Prod.snd completes).symm
  have passed : sim.now ≤ entry.tick := running.steady.timed.awaits.now_le pending
  have clockSoon : clock ≤ entry.tick + 1 :=
    Nat.le_trans running.clockSoon (Nat.succ_le_succ passed)
  have edgeSoon : edge ≤ entry.tick + 2 * config.secureModule.clockPeriod :=
    Nat.le_trans running.edgeSoon (Nat.add_le_add_right passed _)
  let next : Simulation SecureModule RecordedRequester RecordedMemory SecureEvent :=
    { sim with
      rig := Pipeline.checkedOff sim.rig ticket.slot (sim.rig.events.after entry rest) }
  have active : Active config limit (Pipeline.work next.rig tickets) turns
      (next.now + config.pace) next := active_of_steady workable steady running.backed
    running.running running.active running.going clockSoon edgeSoon rfl running.turns
  rw [running.left] at less
  rw [payload]
  apply handle_gives
  exact .ok ⟨rfl, _, less, active⟩

theorem Running.clock_step (within : entry.tick ≤ limit)
    (fires : (entry.tick, entry.payload) = (clock, SimulationEvent.clock)) :
    Gives Overflow (handle entry.payload
        { sim with rig := { sim.rig with events := sim.rig.events.after entry rest } })
      fun result => result.1 = none ∧
        ((result.2.map Recorded.peer Recorded.peer).Complete config SecureModule.Quiescent ∨
          (∃ less < work, Active config limit less turns (entry.tick + config.pace) result.2) ∨
          ∃ fewer < turns, Active config limit work fewer deadline result.2) := by
  obtain ⟨rfl, payload⟩ := Prod.mk.inj fires
  have passed : sim.now ≤ entry.tick := running.steady.timed.awaits.now_le pending
  have other : [(entry.tick, .clock), (edge, .component .edge)].Perm
      ((entry.tick, entry.payload) :: [(edge, .component .edge)]) := .of_eq (by rw [payload])
  let before : Pipeline := { sim.rig with events := sim.rig.events.after entry rest }
  have fired : Pipeline.Steady config driver before tickets [(edge, .component .edge)] :=
    running.steady.fired pending (running.steady.timed.fire pending other) fun _ ended => ended
  rw [payload]
  apply handle_gives
  apply tick_gives
  apply (turns_issues fired.ordered).mono
  rintro ⟨_, issued⟩ ⟨rfl, served, retried, serves, retries, issues⟩
  refine ⟨rfl, ?_⟩
  obtain ⟨later, steady, backed, now, outcome⟩ :=
    fired.clockTurns workable running.backed serves retries issues
  let after : Simulation SecureModule RecordedRequester RecordedMemory SecureEvent :=
    ⟨issued, sim.clock.occurred, sim.finishedAt⟩
  have afterNow : after.now = entry.tick := now
  cases finished : RequestGenerator.isFinished issued.requester.peer with
  | true =>
    have completed : Gives Overflow after.finishOrContinue _ :=
      finish_complete steady backed running.active finished
    exact completed.mono fun final complete => ⟨rfl, .inl complete⟩
  | false =>
    have left : before.work tickets = work := running.left
    have bound := running.turns
    have free : sim.clock.occurred.canSchedule = true :=
      RepeatingEvent.canSchedule_occurred running.going
    have scheduled : Pipeline.Steady config driver after.awaitingTick.rig later
        [(after.now + 1, .clock), (edge, .component .edge)] :=
      steady.scheduleClock (Nat.le_succ _) sim.clock.occurred.priority
    have clockSoon : after.now + 1 ≤ after.awaitingTick.now + 1 := Nat.le_refl _
    have edgeSoon : edge ≤ after.awaitingTick.now + 2 * config.secureModule.clockPeriod := by
      have soon := running.edgeSoon
      change edge ≤ after.now + _
      omega
    apply (finishOrContinue_of_free finished free).mono
    rintro _ rfl
    refine ⟨rfl, .inr ?_⟩
    rcases outcome with less | ⟨same, expects⟩
    · have active : Active config limit (Pipeline.work issued later) turns (after.now + config.pace)
          after.awaitingTick := active_of_steady workable scheduled backed running.running
        running.active running.going clockSoon edgeSoon rfl (by omega)
      rw [left] at less
      rw [afterNow] at active
      exact .inl ⟨_, less, active⟩
    · refine .inr ⟨(limit + 1 - (after.now + 1)) + (limit + 1 - edge), by omega,
        driver, later, after.now + 1, edge, {
        steady := scheduled
        backed := backed
        running := running.running
        active := running.active
        going := running.going
        clockSoon := clockSoon
        edgeSoon := edgeSoon
        promises := ?_
        left := same.trans left
        turns := Nat.le_refl _ }⟩
      obtain ⟨turn, due, expected, soon, ticks⟩ := running.promises
      have started : before.Expects tickets turn due := expected.congr rfl rfl rfl rfl rfl rfl
      obtain ⟨still, own⟩ := expects turn due started
      have afterwards : turn = .serve ∨ turn = .retry ∨ turn = .issue →
          after.now + 1 ≤ deadline := by
        intro clocked
        rw [afterNow]
        exact Nat.le_trans (own clocked) soon
      refine ⟨turn, due, still.congr rfl rfl rfl rfl rfl rfl, soon, ?_⟩
      cases turn with
      | forward => exact ticks
      | deliver => exact ticks
      | settle => exact ticks
      | serve => exact afterwards (.inl rfl)
      | retry => exact afterwards (.inr (.inl rfl))
      | issue => exact afterwards (.inr (.inr rfl))
      | finish =>
        cases still with
        | finish ended =>
          rw [finished] at ended
          cases ended
      | check => exact Nat.zero_le _

theorem Running.edge_step (within : entry.tick ≤ limit)
    (fires : (entry.tick, entry.payload) =
      (edge, SimulationEvent.component SecureEvent.edge)) :
    Gives Overflow (handle entry.payload
        { sim with rig := { sim.rig with events := sim.rig.events.after entry rest } })
      fun result => result.1 = none ∧
        ((∃ less < work, Active config limit less turns (entry.tick + config.pace) result.2) ∨
          ∃ fewer < turns, Active config limit work fewer deadline result.2) := by
  obtain ⟨rfl, payload⟩ := Prod.mk.inj fires
  have passed : sim.now ≤ entry.tick := running.steady.timed.awaits.now_le pending
  have other : [(clock, .clock), (entry.tick, .component .edge)].Perm
      ((entry.tick, entry.payload) :: [(clock, .clock)]) := by
    rw [payload]
    exact .swap _ _ _
  let before : Pipeline := { sim.rig with events := sim.rig.events.after entry rest }
  have fired : Pipeline.Steady config driver before tickets [(clock, .clock)] :=
    running.steady.fired pending (running.steady.timed.fire pending other) fun _ ended => ended
  obtain ⟨later, steady, backed, outcome⟩ := fired.edgeTurns workable
  have now : (SecureModule.edgeWork before).events.now = entry.tick :=
    congrArg EventQueue.now (SecureModule.edgeWork_events before)
  have left : before.work tickets = work := running.left
  have bound := running.turns
  rw [payload]
  apply handle_gives
  rw [react_edge]
  change Gives Overflow ((SecureModule.scheduleEdge (SecureModule.edgeWork before)).map _) _
  generalize SecureModule.edgeWork before = worked at steady backed outcome now ⊢
  have period := steady.ordered.period
  have free : worked.component.driver.canSchedule = true := by
    rw [steady.driven]
    exact RepeatingEvent.canSchedule_occurred running.running
  apply (SecureModule.scheduleEdge_of_free period free).map
  rintro _ rfl
  have apart : ∀ event ∈ [(clock, SimulationEvent.clock)],
      event.2 ≠ .component SecureEvent.edge := by
    simp
  have awaiting := steady.awaitingEdge apart
  let edge' := Clock.edge worked.events.now 1 worked.component.config.clockPeriod
  let next : Simulation SecureModule RecordedRequester RecordedMemory SecureEvent :=
    { sim with rig := SecureModule.awaitingEdge worked }
  have scheduled : Pipeline.Steady config (driver.occurred.awaiting worked.events) next.rig later
      [(clock, .clock), (edge', .component .edge)] :=
    { awaiting with timed := awaiting.timed.reorder (.swap _ _ _) }
  have nextNow : next.now = entry.tick := now
  have edgeLater : worked.events.now < edge' := Clock.lt_edge period Nat.one_pos
  have edgeBelow : edge' < worked.events.now + (1 + 1) * worked.component.config.clockPeriod :=
    Clock.edge_lt period
  rw [steady.configured] at edgeBelow
  have clockSoon : clock ≤ next.now + 1 := by
    have soon := running.clockSoon
    omega
  have edgeSoon : edge' ≤ next.now + 2 * config.secureModule.clockPeriod := by omega
  refine ⟨rfl, ?_⟩
  rcases outcome with less | ⟨same, expects⟩
  · have active : Active config limit (Pipeline.work worked later) turns
        (next.now + config.pace) next := active_of_steady workable scheduled backed
      running.running rfl running.going clockSoon edgeSoon rfl (by omega)
    rw [left] at less
    rw [nextNow] at active
    exact .inl ⟨_, less, active⟩
  · refine .inr ⟨(limit + 1 - clock) + (limit + 1 - edge'), by omega, _, later, clock, edge', {
      steady := scheduled
      backed := backed
      running := running.running
      active := rfl
      going := running.going
      clockSoon := clockSoon
      edgeSoon := edgeSoon
      promises := ?_
      left := same.trans left
      turns := Nat.le_refl _ }⟩
    obtain ⟨turn, due, expected, soon, ticks⟩ := running.promises
    have started : before.Expects tickets turn due := expected.congr rfl rfl rfl rfl rfl rfl
    rcases expects turn due started with ⟨rfl, issue⟩ | ⟨notForward, notDeliver, notSettle, still⟩
    · refine ⟨.issue, 0, issue.congr rfl rfl rfl rfl rfl rfl, Nat.zero_le _, ?_⟩
      simp only [Turn.tick] at ticks ⊢
      omega
    · refine ⟨turn, due, still.congr rfl rfl rfl rfl rfl rfl, soon, ?_⟩
      cases turn with
      | forward => exact absurd rfl notForward
      | deliver => exact absurd rfl notDeliver
      | settle => exact absurd rfl notSettle
      | serve => exact ticks
      | retry => exact ticks
      | issue => exact ticks
      | finish => exact ticks
      | check => exact Nat.zero_le _

end

/-- Whichever event fires, the module keeps the pace. -/
theorem active_paced {config : BenchmarkConfig} (workable : config.Workable) (limit : Nat) :
    Paced limit config.pace (Active config limit) fun sim =>
      (sim.map Recorded.peer Recorded.peer).Complete config SecureModule.Quiescent where
  step := by
    rintro work turns deadline sim entry rest ⟨driver, tickets, clock, edge, running⟩ pending within
    rcases running.steady.timed.fires pending with other | ⟨ticket, waits, completes⟩
    · rcases List.mem_cons.1 other with fires | other
      · exact running.clock_step workable pending within fires
      · exact (running.edge_step workable pending within (List.mem_singleton.1 other)).mono
          fun result kept => ⟨kept.1, .inr kept.2⟩
    · exact (running.check_step workable pending waits completes).mono
        fun result kept => ⟨kept.1, .inr (.inl kept.2)⟩
  soon := by
    rintro work turns deadline sim ⟨driver, tickets, clock, edge, running⟩
    exact running.steady.exists_first running.promises
  drained complete := complete.events

theorem opening_steady {config : BenchmarkConfig} (workable : config.Workable) :
    Pipeline.Steady config ((RepeatingEvent.idle Priority.clock).awaiting
        (EventQueue.empty : EventQueue (SimulationEvent SecureEvent)))
      (SecureModule.awaitingEdge (.assemble (SecureModule.fresh config.secureModule)
        (Recorded.blank (RequestGenerator.fresh config.workload))
        (Recorded.blank (MemoryModel.idle config.memory)))) []
      [(Clock.edge 0 1 config.secureModule.clockPeriod, .component .edge)] := by
  have assembled : Pipeline.Steady config (RepeatingEvent.idle Priority.clock)
      (.assemble (SecureModule.fresh config.secureModule)
        (Recorded.blank (RequestGenerator.fresh config.workload))
        (Recorded.blank (MemoryModel.idle config.memory))) [] [] := {
    ordered := assemble_ordered workable.period workable.line config.memory
    driven := rfl
    names := nofun
    configured := rfl
    memory := rfl
    workload := rfl
    requestCapacity := rfl
    responseCapacity := rfl
    timed := Gate.timed_empty _ _ _
    blocked := nofun
    owed := rfl
    unblocked := rfl
    awaits := rfl
    held := nofun
    served := nofun
    checked := nofun }
  exact assembled.awaitingEdge nofun

/-- With enough ticks, the run of a secure module completes. -/
theorem module_completes {config : BenchmarkConfig} (workable : config.Workable) {maxTicks : Nat}
    (budget : config.moduleBudget ≤ maxTicks) :
    Completes (SecureModule.fresh config.secureModule) config SecureModule.Quiescent maxTicks := by
  let requester := Recorded.blank (RequestGenerator.fresh config.workload)
  let memory := Recorded.blank (MemoryModel.idle config.memory)
  let sim := opening config.secureModule requester memory
  let edge := Clock.edge 0 1 config.secureModule.clockPeriod
  have opened := opening_steady workable
  have steady : Pipeline.Steady config _ sim.rig []
      [(0, .clock), (edge, .component .edge)] :=
    opened.scheduleClock (Nat.le_refl 0) Priority.external
  have edgeBelow : edge < 0 + (1 + 1) * config.secureModule.clockPeriod :=
    Clock.edge_lt workable.period
  have now : sim.now = 0 := rfl
  have edgeSoon : edge ≤ sim.now + 2 * config.secureModule.clockPeriod := by omega
  have bound : (maxTicks + 1 - 0) + (maxTicks + 1 - edge) ≤ (maxTicks + 1) * (1 + 1) := by omega
  have work : Pipeline.work sim.rig [] = 5 * config.workload.numRequests := rfl
  have active := active_of_steady workable steady nofun rfl rfl rfl (Nat.zero_le _) edgeSoon work
    bound
  rw [now, Nat.zero_add] at active
  have ready : Gives Overflow (SecureModule.scheduleEdge (.assemble
      (SecureModule.fresh config.secureModule) requester memory)) fun rig : Pipeline =>
        rig.now = 0 ∧ rig.events.Awaits [(edge, .component .edge)] ∧
        Active config maxTicks (5 * config.workload.numRequests) ((maxTicks + 1) * (1 + 1))
          config.pace (begun rig) := by
    apply (SecureModule.scheduleEdge_of_free workable.period rfl).mono
    rintro _ rfl
    exact ⟨rfl, opened.timed.awaits, active⟩
  exact completes_of_paced ready (active_paced workable maxTicks) (Nat.succ_pos _) (Nat.le_refl _)
    budget

end Simulation

end GatedMemory
