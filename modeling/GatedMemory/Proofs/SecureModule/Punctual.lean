import GatedMemory.Proofs.Rounds
import GatedMemory.Proofs.SecureModule.Timing
import GatedMemory.Proofs.SecureModule.Progress

set_option autoImplicit false

namespace GatedMemory

namespace BenchmarkConfig

variable {config : BenchmarkConfig} {number other tick : Nat}

/-- Ticks from the creation of a request to its offer to memory. -/
def checkTime (config : BenchmarkConfig) : Nat :=
  config.secureModule.commonLatency + config.secureModule.readLatency + 1

/-- Ticks from the creation of a request to the return of its response. -/
def roundTrip (config : BenchmarkConfig) : Nat :=
  config.checkTime + config.memory.accessLatency + 1

/-- Requests created in successive ticks, before the next has to wait for a response. -/
def issueBatch (config : BenchmarkConfig) : Nat :=
  min config.workload.maxOutstanding config.roundTrip

/-- When the request with this number is created. -/
def issueTick (config : BenchmarkConfig) (number : Nat) : Nat :=
  roundTick config.issueBatch config.roundTrip number

/-- When it is offered to memory. -/
def forwardTick (config : BenchmarkConfig) (number : Nat) : Nat :=
  config.issueTick number + config.checkTime

/-- When memory sends its response. -/
def serveTick (config : BenchmarkConfig) (number : Nat) : Nat :=
  config.forwardTick number + config.memory.accessLatency

/-- When the requester gets the response. -/
def returnTick (config : BenchmarkConfig) (number : Nat) : Nat :=
  config.issueTick number + config.roundTrip

/-- The module ticks all the time, treats all commands alike, and has room for all requests that can
wait for it at once, as has memory. -/
structure Uncongested (config : BenchmarkConfig) : Prop extends config.Workable where
  everyTick : config.secureModule.clockPeriod = 1
  uniform : config.secureModule.readLatency = config.secureModule.writeLatency
  requestRoom :
    min config.workload.maxOutstanding config.checkTime ≤ config.secureModule.requestCapacity
  memoryRoom : min config.workload.maxOutstanding (config.memory.accessLatency + 1) ≤
    config.memory.maxOutstanding

/-- The response returns one tick after memory sent it. -/
theorem returnTick_eq (number : Nat) : config.returnTick number = config.serveTick number + 1 := by
  unfold returnTick serveTick forwardTick roundTrip
  omega

namespace Positive

variable (positive : config.Positive)
include positive

theorem issueBatch_pos : 0 < config.issueBatch := by
  have window := positive.window
  unfold issueBatch roundTrip
  omega

theorem strictMono_issueTick : StrictMono config.issueTick :=
  strictMono_roundTick positive.issueBatch_pos (Nat.min_le_right _ _)

theorem strictMono_forwardTick : StrictMono config.forwardTick :=
  fun _ _ before => Nat.add_lt_add_right (positive.strictMono_issueTick before) _

theorem strictMono_serveTick : StrictMono config.serveTick :=
  fun _ _ before => Nat.add_lt_add_right (positive.strictMono_forwardTick before) _

theorem strictMono_returnTick : StrictMono config.returnTick :=
  fun _ _ before => Nat.add_lt_add_right (positive.strictMono_issueTick before) _

/-- A window of requests after another, its response is back. -/
theorem issueTick_add_issueBatch (number : Nat) :
    config.issueTick (number + config.issueBatch) = config.returnTick number :=
  roundTick_add_batch positive.issueBatch_pos number

/-- Fewer than a window of requests are created from the creation of one until its return. -/
theorem lt_add_issueBatch (before : config.issueTick other < config.returnTick number) :
    other < number + config.issueBatch := by
  rw [← positive.issueTick_add_issueBatch] at before
  exact positive.strictMono_issueTick.lt_iff_lt.1 before

/-- In so many ticks at most so many requests are created. -/
theorem lt_add_of_issueTick_lt {ticks : Nat}
    (before : config.issueTick other < config.issueTick number + ticks) :
    other < number + ticks := by
  by_contra beyond
  have spread := positive.strictMono_issueTick.add_le_nat (other - number) number
  rw [Nat.sub_add_cancel (by omega)] at spread
  omega

theorem lt_memoryRoom (before : config.forwardTick other ≤ config.serveTick number) :
    other < number + min config.workload.maxOutstanding (config.memory.accessLatency + 1) := by
  have near : other < number + (config.memory.accessLatency + 1) := by
    apply positive.lt_add_of_issueTick_lt
    unfold serveTick forwardTick at before
    omega
  have window : other < number + config.issueBatch := by
    apply positive.lt_add_issueBatch
    rw [returnTick_eq]
    unfold serveTick forwardTick at before ⊢
    omega
  unfold issueBatch at window
  omega

theorem lt_requestRoom (before : config.issueTick other < config.forwardTick number) :
    other < number + min config.workload.maxOutstanding config.checkTime := by
  have near : other < number + config.checkTime := positive.lt_add_of_issueTick_lt before
  have window : other < number + config.issueBatch := by
    apply positive.lt_add_issueBatch
    rw [returnTick_eq]
    unfold serveTick
    omega
  unfold issueBatch at window
  omega

/-- The next request is due exactly if the window is open for it. -/
theorem issueTick_le_iff {created returned : Nat}
    (issued : Passed config.issueTick config.workload.numRequests tick created)
    (delivered : Passed config.returnTick config.workload.numRequests (tick + 1) returned)
    (order : returned ≤ created) (more : created < config.workload.numRequests) :
    config.issueTick created ≤ tick ↔ created - returned < config.workload.maxOutstanding :=
  roundTick_le_iff positive.issueBatch_pos issued delivered order more

end Positive

theorem Uncongested.holdCycles_eq (uncongested : config.Uncongested) {kind : AccessKind}
    {cycles : Nat} (policy : config.secureModule.holdCycles kind = some cycles) :
    cycles = config.checkTime := by
  have uniform := uncongested.uniform
  cases kind with
  | read => exact (Option.some.inj policy).symm
  | write =>
    rw [← Option.some.inj policy, checkTime, uniform]
  | other => cases policy

/-- The counters of the requester after so many requests and responses, all of them in time. -/
def statsAfter (config : BenchmarkConfig) (issued responses : Nat) : TrafficStats :=
  { issued, responses
    totalRoundTrip := responses * config.roundTrip
    maxRoundTrip := if responses = 0 then 0 else config.roundTrip }

theorem statsAfter_addResponse (issued responses : Nat) :
    (config.statsAfter issued responses).addResponse config.roundTrip =
      config.statsAfter issued (responses + 1) :=
  TrafficStats.uniform_addResponse config.roundTrip issued responses

def Dated (config : BenchmarkConfig) (packet : Packet) : Prop :=
  packet.createdAt = config.issueTick packet.id

end BenchmarkConfig

namespace Pipeline

variable {config : BenchmarkConfig} {pipe : Pipeline}

def forwarded (pipe : Pipeline) : Nat :=
  pipe.sent + pipe.memory.peer.serving.length

theorem forwarded_eq_add (pipe : Pipeline) :
    pipe.forwarded = pipe.sent + pipe.memory.peer.serving.length := rfl

theorem sent_eq_add (pipe : Pipeline) : pipe.sent = pipe.requester.peer.stats.responses +
    pipe.component.gate.responses.items.length := rfl

namespace Ordered

variable (ordered : pipe.Ordered)
include ordered

theorem head_response {head : Packet} {rest : List Packet}
    (items : pipe.component.gate.responses.items = head :: rest) :
    head.id = pipe.requester.peer.stats.responses := by
  have order := ordered.order
  simp only [journey, items, List.map_append, List.map_cons, List.append_assoc,
    List.cons_append] at order
  rw [eq_length_of_range order, List.length_map, ordered.answered]

theorem head_serving {entry : Nat × Packet} {rest : List (Nat × Packet)}
    (serving : pipe.memory.peer.serving = entry :: rest) : entry.2.id = pipe.sent := by
  have order := ordered.order
  simp only [journey, serving, List.map_append, List.map_cons, List.append_assoc,
    List.cons_append] at order
  rw [← List.append_assoc] at order
  rw [eq_length_of_range order, List.length_append, List.length_map, List.length_map, sent,
    ordered.answered]

theorem head_request {head : QueuedRequest} {rest : List QueuedRequest}
    (items : pipe.component.gate.requests.items = head :: rest) :
    head.packet.id = pipe.forwarded := by
  have order := ordered.order
  simp only [journey, items, List.map_append, List.map_cons, List.append_assoc,
    List.cons_append] at order
  rw [← List.append_assoc, ← List.append_assoc] at order
  rw [eq_length_of_range order]
  simp only [List.length_append, List.length_map, forwarded, sent, ordered.answered]

theorem created_eq (held : pipe.requester.peer.held = none) : pipe.requester.peer.created =
    pipe.forwarded + pipe.component.gate.requests.items.length := by
  have length := congrArg List.length ordered.order
  simp only [journey, held, Option.toList_none, List.append_nil, List.length_map,
    List.length_append, List.length_range, ← ordered.answered] at length
  exact length.symm

end Ordered

/-- Nobody waits for a retry, and nobody was refused anything by memory. -/
structure Calm (pipe : Pipeline) : Prop where
  towardMemory : pipe.component.gate.towardMemory = {}
  towardRequester : pipe.component.gate.towardRequester = {}
  flows : pipe.memory.peer.responseBlocked = false
  owes : pipe.memory.peer.owesRetry = false
  rejections : pipe.memory.peer.rejections = 0
  awaits : pipe.requester.peer.awaitsRetry = false
  held : pipe.requester.peer.held = none

/-- The checks that end at an edge have ended before it. -/
theorem Driven.lt_readyAt (driven : pipe.Driven) {tickets : List Ticket}
    {others : List (Nat × SimulationEvent SecureEvent)}
    (timed : pipe.component.gate.Timed checkEvent pipe.events tickets others)
    {entry : EventEntry (SimulationEvent SecureEvent)}
    {rest : List (EventEntry (SimulationEvent SecureEvent))}
    (pending : pipe.events.pending = entry :: rest) (payload : entry.payload = .component .edge) :
    ∀ ticket ∈ pipe.component.gate.unready tickets, entry.tick < ticket.readyAt := by
  have urgent : ∀ slot, SecureEvent.rank (checkEvent slot) < SecureEvent.rank entry.payload := by
    intro slot
    rw [payload]
    change Priority.standard < Priority.clock
    decide
  exact timed.lt_readyAt pending driven.ranked urgent

/-- The parts follow the configuration and nobody waits for a retry. Of the requests, exactly those
are created, taken by memory, sent back and returned that were due to be so before these ticks. -/
structure Punctual (config : BenchmarkConfig) (pipe : Pipeline) (tickets : List Ticket)
    (others : List (Nat × SimulationEvent SecureEvent))
    (issuing forwarding serving delivering : Nat) : Prop extends Ordered pipe, Calm pipe where
  configured : pipe.component.config = config.secureModule
  memory : pipe.memory.peer.config = config.memory
  workload : pipe.requester.peer.workload = config.workload
  requestCapacity :
    pipe.component.gate.requests.capacity = config.secureModule.requestCapacity
  responseCapacity :
    pipe.component.gate.responses.capacity = config.secureModule.responseCapacity
  timed : pipe.component.gate.Timed checkEvent pipe.events tickets others
  stats : pipe.requester.peer.stats =
    config.statsAfter pipe.requester.peer.created pipe.requester.peer.stats.responses
  created :
    Passed config.issueTick config.workload.numRequests issuing pipe.requester.peer.created
  taken : Passed config.forwardTick config.workload.numRequests forwarding pipe.forwarded
  sent : Passed config.serveTick config.workload.numRequests serving pipe.sent
  returned : Passed config.returnTick config.workload.numRequests delivering
    pipe.requester.peer.stats.responses
  /-- The checks end when the requests are due at memory. -/
  checked : tickets.map Ticket.readyAt = pipe.component.gate.requests.items.map
    fun request => config.forwardTick request.packet.id
  queued : ∀ request ∈ pipe.component.gate.requests.items, config.Dated request.packet
  served : ∀ entry ∈ pipe.memory.peer.serving,
    config.Dated entry.2 ∧ entry.1 = config.serveTick entry.2.id
  responding : ∀ packet ∈ pipe.component.gate.responses.items, config.Dated packet
  receipts : ∀ receipt ∈ pipe.requester.receipts,
    receipt.1 = receipt.2.createdAt + config.roundTrip

namespace Punctual

variable {tickets : List Ticket} {others left : List (Nat × SimulationEvent SecureEvent)}
  {tick issuing forwarding serving delivering : Nat}

section

variable (punctual : Punctual config pipe tickets others issuing forwarding serving delivering)
include punctual

theorem issued_eq : pipe.requester.peer.stats.issued = pipe.requester.peer.created :=
  congrArg TrafficStats.issued punctual.stats

theorem created_eq_add : pipe.requester.peer.created =
    pipe.forwarded + pipe.component.gate.requests.items.length :=
  punctual.toOrdered.created_eq punctual.held

/-- The next request that memory takes is the oldest one queued. -/
theorem head_ticket {head : QueuedRequest} {rest : List QueuedRequest}
    (items : pipe.component.gate.requests.items = head :: rest) : ∃ first later,
      tickets = first :: later ∧ first.slot = head.slot ∧
      first.readyAt = config.forwardTick pipe.forwarded := by
  obtain ⟨first, later, rfl, slot⟩ := punctual.timed.tracks.head_ticket items
  have checked := punctual.checked
  rw [items, List.map_cons, List.map_cons, punctual.toOrdered.head_request items] at checked
  exact ⟨first, later, rfl, slot, (List.cons.inj checked).1⟩

theorem due_of_ready {head : QueuedRequest} {rest : List QueuedRequest}
    (items : pipe.component.gate.requests.items = head :: rest)
    (ready : pipe.component.gate.slots.isReady head.slot = true) :
    pipe.forwarded < config.workload.numRequests ∧
      config.forwardTick pipe.forwarded ≤ pipe.now := by
  obtain ⟨first, later, rfl, slot, readyAt⟩ := punctual.head_ticket items
  have matured := punctual.timed.matured first List.mem_cons_self (slot ▸ ready)
  have created := punctual.created_eq_add
  have inside := punctual.created.inside
  rw [items, List.length_cons] at created
  exact ⟨by omega, readyAt ▸ matured⟩

theorem reschedule {events : EventQueue (SimulationEvent SecureEvent)}
    (timed : pipe.component.gate.Timed checkEvent events tickets left) (driver : RepeatingEvent) :
    Punctual config { pipe with component := { pipe.component with driver }, events } tickets left
      issuing forwarding serving delivering :=
  { punctual with toOrdered := { punctual.toOrdered with }, timed := timed }

/-- Once the requester waits for nothing, nothing is on its way. -/
theorem drained (finished : pipe.requester.peer.isFinished = true) :
    pipe.requester.peer.stats.responses = config.workload.numRequests ∧
    pipe.requester.peer.created = config.workload.numRequests ∧ tickets = [] := by
  have created := punctual.created_eq_add
  have sent := pipe.sent_eq_add
  have forwarded := pipe.forwarded_eq_add
  have all := punctual.created.inside
  have returned := punctual.returned.inside
  rw [RequestGenerator.isFinished_iff, punctual.workload] at finished
  refine ⟨by omega, by omega, List.eq_nil_of_length_eq_zero ?_⟩
  rw [← punctual.timed.tracks.length_eq]
  omega

end

/-- Before the first edge nothing is due but the first request. -/
theorem assemble (workable : config.Workable) :
    Punctual config (.assemble (SecureModule.fresh config.secureModule)
      (Recorded.blank (RequestGenerator.fresh config.workload))
      (Recorded.blank (MemoryModel.idle config.memory))) [] [] 0 1 0 1 := by
  have ordered := Simulation.assemble_ordered workable.period workable.line config.memory
  have forwardLater : config.forwardTick 0 ≠ 0 := by
    unfold BenchmarkConfig.forwardTick BenchmarkConfig.checkTime
    omega
  have returnLater : config.returnTick 0 ≠ 0 := by
    rw [BenchmarkConfig.returnTick_eq]
    omega
  exact { ordered with
    towardMemory := rfl
    towardRequester := rfl
    flows := rfl
    owes := rfl
    rejections := rfl
    awaits := rfl
    held := rfl
    configured := rfl
    memory := rfl
    workload := rfl
    requestCapacity := rfl
    responseCapacity := rfl
    timed := Gate.timed_empty _ _ _
    stats := by
      change ({} : TrafficStats) = config.statsAfter 0 0
      rw [BenchmarkConfig.statsAfter, Nat.zero_mul]
      rfl
    created := .zero _ _
    taken := (Passed.zero _ _).rest fun _ => forwardLater
    sent := .zero _ _
    returned := (Passed.zero _ _).rest fun _ => returnLater
    checked := rfl
    queued := nofun
    served := nofun
    responding := nofun
    receipts := nofun }

/-- When the next request is due at memory, its check is over. -/
theorem exists_readyHead (punctual : Punctual config pipe tickets others tick forwarding serving
      delivering) (positive : config.Positive)
    (late : ∀ ticket ∈ pipe.component.gate.unready tickets, tick < ticket.readyAt)
    (more : pipe.forwarded < config.workload.numRequests)
    (due : config.forwardTick pipe.forwarded = tick) :
    ∃ head, pipe.component.gate.readyHead? = some head := by
  have early : config.issueTick pipe.forwarded < tick := by
    unfold BenchmarkConfig.forwardTick BenchmarkConfig.checkTime at due
    omega
  have before := punctual.created.lt_count positive.strictMono_issueTick more early
  have queued : pipe.component.gate.requests.items ≠ [] := by
    intro empty
    have created := punctual.created_eq_add
    rw [empty, List.length_nil] at created
    omega
  obtain ⟨head, rest, items⟩ := List.exists_cons_of_ne_nil queued
  obtain ⟨first, later, rfl, slot, readyAt⟩ := punctual.head_ticket items
  refine ⟨head, Gate.readyHead?_eq_some_iff.2 ⟨congrArg List.head? items, ?_⟩⟩
  by_contra unready
  rw [← slot] at unready
  have beyond := late first (Gate.mem_unready.2 ⟨List.mem_cons_self, Bool.eq_false_iff.2 unready⟩)
  omega

/-- The next request is offered to memory when it is due, and memory has room for it. -/
theorem forward (punctual : Punctual config pipe tickets others tick tick tick delivering)
    (uncongested : config.Uncongested) (now : pipe.now = tick)
    (late : ∀ ticket ∈ pipe.component.gate.unready tickets, tick < ticket.readyAt)
    {outcome : Gate × RecordedMemory}
    (forwards : SecureModule.Forwards pipe.component.gate pipe.memory pipe.now outcome) :
    ∃ later, Punctual config (pipe.withMemory outcome) later others tick (tick + 1) tick
      delivering := by
  have positive := uncongested.toPositive
  have ordered := punctual.toOrdered.forward forwards
  cases forwards with
  | idle unable =>
    refine ⟨tickets, { punctual with toOrdered := ordered, taken := punctual.taken.rest ?_ }⟩
    intro more due
    obtain ⟨head, first⟩ := punctual.exists_readyHead positive late more due
    rcases unable with blocked | none
    · rw [punctual.towardMemory] at blocked
      cases blocked
    · rw [first] at none
      cases none
  | @taken head rest answer unblocked items ready room answered =>
    obtain ⟨more, reached⟩ := punctual.due_of_ready items ready
    rw [now] at reached
    have exact_tick := punctual.taken.due_eq more reached
    have number := punctual.toOrdered.head_request items
    have dated := punctual.queued head (items ▸ List.mem_cons_self)
    have checked := punctual.checked
    refine ⟨tickets.tail, { punctual with
      toOrdered := ordered
      timed := punctual.timed.depart items ready
      taken := ?_, checked := ?_, queued := ?_, served := ?_ }⟩
    · have advanced := punctual.taken.advance positive.strictMono_forwardTick more reached
      simpa only [forwarded, Pipeline.sent, withMemory, Gate.dropHead, RecordedMemory.accepting,
        Recorded.note, List.length_append, List.length_singleton, Nat.add_assoc] using advanced
    · rw [List.map_tail, checked, items]
      rfl
    · exact fun request member => punctual.queued request (items ▸ List.mem_cons_of_mem _ member)
    · intro entry member
      rcases List.mem_append.1 member with old | new
      · exact punctual.served entry old
      · have same := Packet.eq_of_response? answered
        have id : answer.id = head.packet.id := by rw [same]
        have createdAt : answer.createdAt = head.packet.createdAt := by rw [same]
        rw [List.mem_singleton.1 new, punctual.memory, now, BenchmarkConfig.Dated]
        rw [id, createdAt, number, BenchmarkConfig.serveTick, exact_tick]
        exact ⟨number ▸ dated, rfl⟩
  | @refused head rest unblocked items ready full =>
    obtain ⟨more, reached⟩ := punctual.due_of_ready items ready
    rw [now] at reached
    have order := pipe.forwarded_eq_add
    have next := punctual.sent.next (by omega)
    have room := positive.lt_memoryRoom (Nat.le_trans reached next)
    have enough := uncongested.memoryRoom
    rw [Bool.eq_false_iff, ne_eq, RecordedMemory.hasRoom_iff, punctual.memory] at full
    omega

theorem deliver (punctual : Punctual config pipe tickets others issuing forwarding tick tick)
    (uncongested : config.Uncongested) (now : pipe.now = tick)
    {outcome : Gate × RecordedRequester}
    (delivers : SecureModule.Delivers pipe.component.gate pipe.requester pipe.now outcome) :
    Punctual config (pipe.withRequester outcome) tickets others issuing forwarding tick
      (tick + 1) := by
  have positive := uncongested.toPositive
  have ordered := punctual.toOrdered.deliver delivers
  have sent := pipe.sent_eq_add
  have inside := punctual.sent.inside
  cases delivers with
  | idle unable =>
    refine { punctual with toOrdered := ordered, returned := punctual.returned.rest ?_ }
    intro more late
    rw [BenchmarkConfig.returnTick_eq] at late
    have before := punctual.sent.lt_count positive.strictMono_serveTick more (by omega)
    rcases unable with blocked | empty
    · rw [punctual.towardRequester] at blocked
      cases blocked
    · rw [empty, List.length_nil] at sent
      omega
  | @taken head rest unblocked items =>
    rw [items, List.length_cons] at sent
    have left := punctual.sent.past pipe.requester.peer.stats.responses (by omega)
    have reached : config.returnTick pipe.requester.peer.stats.responses ≤ tick := by
      rw [BenchmarkConfig.returnTick_eq]
      exact left
    have exact_tick := punctual.returned.due_eq (by omega) reached
    have dated := punctual.responding head (items ▸ List.mem_cons_self)
    rw [BenchmarkConfig.Dated, punctual.toOrdered.head_response items] at dated
    have waited : tick = head.createdAt + config.roundTrip := by
      rw [dated, ← exact_tick, BenchmarkConfig.returnTick]
    -- the response was among those sent, and still is
    have same : Pipeline.sent (pipe.withRequester
        ({ pipe.component.gate with
          responses := { pipe.component.gate.responses with items := rest } },
          pipe.requester.receiving head pipe.now)) = pipe.sent := by
      rw [sent]
      change pipe.requester.peer.stats.responses + 1 + rest.length = _
      omega
    refine { punctual with
      toOrdered := ordered
      timed := punctual.timed.congr rfl rfl rfl
      stats := ?_, taken := ?_, sent := same.symm ▸ punctual.sent, responding := ?_, receipts := ?_
      returned := punctual.returned.advance positive.strictMono_returnTick (by omega) reached }
    · change pipe.requester.peer.stats.addResponse (pipe.now - head.createdAt) =
        config.statsAfter pipe.requester.peer.created (pipe.requester.peer.stats.responses + 1)
      rw [← BenchmarkConfig.statsAfter_addResponse, ← punctual.stats, now, waited,
        Nat.add_sub_cancel_left]
    · rw [forwarded_eq_add, same]
      exact punctual.taken
    · exact fun packet member => punctual.responding packet (items ▸ List.mem_cons_of_mem _ member)
    · intro receipt member
      simp only [withRequester, RecordedRequester.receipts_receiving, List.mem_append,
        List.mem_singleton] at member
      rcases member with old | rfl
      · exact punctual.receipts receipt old
      · exact now.trans waited

/-- The driver has one thing to do at each side at most, and owes no retry. -/
theorem edgeWork (punctual : Punctual config pipe tickets others tick tick tick tick)
    (uncongested : config.Uncongested) (now : pipe.now = tick)
    (late : ∀ ticket ∈ pipe.component.gate.unready tickets, tick < ticket.readyAt) :
    ∃ later, Punctual config (SecureModule.edgeWork pipe) later others tick (tick + 1) tick
      (tick + 1) := by
  have fired : Punctual config (SecureModule.edgeFired pipe) tickets others tick tick tick tick :=
    punctual.reschedule punctual.timed _
  obtain ⟨later, sent⟩ := fired.forward uncongested now late
    (SecureModule.sendRequest_forwards fired.plain)
  rw [← SecureModule.drainRequest_eq] at sent
  have delivered := sent.deliver uncongested now SecureModule.sendResponse_delivers
  rw [← SecureModule.drainResponse_eq] at delivered
  have requesterIdle := congrArg FlowFlags.owesRetry delivered.towardRequester
  have memoryIdle := congrArg FlowFlags.owesRetry delivered.towardMemory
  refine ⟨later, ?_⟩
  rw [SecureModule.edgeWork, SecureModule.settleRequestRetry_of_idle requesterIdle,
    SecureModule.settleResponseRetry_of_idle memoryIdle]
  exact delivered

theorem check (punctual : Punctual config pipe tickets others issuing forwarding serving delivering)
    {entry : EventEntry (SimulationEvent SecureEvent)}
    {rest : List (EventEntry (SimulationEvent SecureEvent))}
    (pending : pipe.events.pending = entry :: rest) {ticket : Ticket}
    (waits : ticket ∈ pipe.component.gate.unready tickets)
    (completes : ticket.completion checkEvent = (entry.tick, entry.payload)) :
    Punctual config (pipe.checkedOff ticket.slot (pipe.events.after entry rest)) tickets others
      issuing forwarding serving delivering :=
  { punctual with
    toOrdered := { punctual.toOrdered with }
    timed := punctual.timed.finish pending waits completes }

/-- Memory sends the next response when it is due, and there is room for it. -/
theorem serve (punctual : Punctual config pipe tickets others issuing (tick + 1) tick (tick + 1))
    (uncongested : config.Uncongested) (now : pipe.now = tick) {next : Pipeline}
    (serves : pipe.Serves next) :
    Punctual config next tickets others issuing (tick + 1) (tick + 1) (tick + 1) := by
  have positive := uncongested.toPositive
  have ordered := punctual.toOrdered.serve serves
  have sent := pipe.sent_eq_add
  have forwarded := pipe.forwarded_eq_add
  have inside := punctual.taken.inside
  cases serves with
  | idle quiet =>
    refine { punctual with sent := punctual.sent.rest ?_ }
    intro more late
    have early : config.forwardTick pipe.sent < tick + 1 := by
      unfold BenchmarkConfig.serveTick at late
      omega
    have before := punctual.taken.lt_count positive.strictMono_forwardTick more early
    have busy : pipe.memory.peer.serving ≠ [] := by
      intro empty
      rw [empty, List.length_nil] at forwarded
      omega
    obtain ⟨entry, rest, serving⟩ := List.exists_cons_of_ne_nil busy
    obtain ⟨-, due⟩ := punctual.served entry (serving ▸ List.mem_cons_self)
    rw [punctual.toOrdered.head_serving serving, late] at due
    rcases quiet with blocked | none
    · rw [punctual.flows] at blocked
      cases blocked
    · have later := none entry (by rw [serving]; rfl)
      omega
  | @admitted due answer rest unblocked serving ready room =>
    obtain ⟨dated, dueAt⟩ := punctual.served (due, answer) (serving ▸ List.mem_cons_self)
    rw [punctual.toOrdered.head_serving serving] at dueAt
    rw [serving, List.length_cons] at forwarded
    have reached : config.serveTick pipe.sent ≤ tick := dueAt ▸ now ▸ ready
    have advanced := punctual.sent.advance positive.strictMono_serveTick (by omega) reached
    have one_more : Pipeline.sent (pipe.withMemory
        (pipe.component.gate.withResponse answer, pipe.memory.withServing rest)) =
        pipe.sent + 1 := by
      simp only [Pipeline.sent, withMemory, Gate.withResponse, List.length_append,
        List.length_singleton, Nat.add_assoc]
    have same : Pipeline.forwarded (pipe.withMemory
        (pipe.component.gate.withResponse answer, pipe.memory.withServing rest)) =
        pipe.forwarded := by
      rw [forwarded_eq_add, one_more, forwarded]
      change pipe.sent + 1 + rest.length = _
      omega
    refine { punctual with
      toOrdered := ordered
      towardMemory := ?_
      timed := punctual.timed.congr rfl rfl rfl
      taken := same.symm ▸ punctual.taken, sent := one_more.symm ▸ advanced
      served := ?_, responding := ?_ }
    · exact congrArg (fun flags => { flags with owesRetry := false }) punctual.towardMemory
    · exact fun entry member => punctual.served entry (serving ▸ List.mem_cons_of_mem _ member)
    · intro packet member
      rcases List.mem_append.1 member with old | new
      · exact punctual.responding packet old
      · rw [List.mem_singleton.1 new]
        exact dated
  | @refused due answer rest unblocked serving ready full =>
    rw [serving, List.length_cons] at forwarded
    rw [punctual.responseCapacity] at full
    have room := positive.responses
    -- the oldest response would have returned by now
    have left := punctual.sent.past pipe.requester.peer.stats.responses (by omega)
    have before : pipe.requester.peer.stats.responses < pipe.requester.peer.stats.responses := by
      apply punctual.returned.lt_count positive.strictMono_returnTick
      · omega
      · rw [BenchmarkConfig.returnTick_eq]
        omega
    exact absurd before (Nat.lt_irrefl _)

theorem retry (punctual : Punctual config pipe tickets others issuing forwarding serving delivering)
    {next : Pipeline} (retries : pipe.Retries next) : next = pipe := by
  cases retries with
  | idle => rfl
  | passed owed =>
    rw [punctual.owes] at owed
    cases owed

section

variable (punctual : Punctual config pipe tickets others tick (tick + 1) (tick + 1) (tick + 1))
  (uncongested : config.Uncongested)
include punctual uncongested

/-- The window is open exactly when the next request is due. -/
theorem canCreate_iff : pipe.requester.peer.canCreate = true ↔
    pipe.requester.peer.created < config.workload.numRequests ∧
      config.issueTick pipe.requester.peer.created = tick := by
  have created := punctual.created_eq_add
  have sent := pipe.sent_eq_add
  have forwarded := pipe.forwarded_eq_add
  have due_iff := uncongested.toPositive.issueTick_le_iff punctual.created punctual.returned
    (by omega)
  rw [RequestGenerator.canCreate_iff, punctual.workload, RequestGenerator.inFlight,
    punctual.issued_eq]
  refine and_congr_right fun more => ?_
  rw [← due_iff more]
  exact ⟨punctual.created.due_eq more, Nat.le_of_eq⟩

theorem enter (now : pipe.now = tick) {packet : Packet} {source : RequestGenerator} {cycles : Nat}
    (offers : pipe.requester.peer.Offers pipe.now packet source)
    (policy : pipe.component.config.holdCycles packet.command.kind = some cycles)
    (room : pipe.component.gate.requests.items.length < pipe.component.gate.requests.capacity)
    (ordered : (pipe.admitting source packet
      (Clock.edge pipe.now cycles pipe.component.config.clockPeriod)).Ordered) :
    ∃ later, Punctual config (pipe.admitting source packet
        (Clock.edge pipe.now cycles pipe.component.config.clockPeriod)) later others
      (tick + 1) (tick + 1) (tick + 1) (tick + 1) := by
  obtain ⟨able, id, createdAt, one_more⟩ := offers.created_of_empty punctual.held
  obtain ⟨more, due⟩ := (punctual.canCreate_iff uncongested).1 able
  obtain ⟨held, awaits, stats, workload⟩ := offers.after
  have dated : config.Dated packet := by
    rw [BenchmarkConfig.Dated, createdAt, id, due, now]
  have elapsed : Clock.edge pipe.now cycles pipe.component.config.clockPeriod =
      config.forwardTick packet.id := by
    rw [punctual.configured] at policy
    rw [punctual.configured, uncongested.everyTick, Clock.edge_of_dvd Nat.one_pos (Nat.one_dvd _),
      uncongested.holdCycles_eq policy, Nat.mul_one, id, BenchmarkConfig.forwardTick, due, now]
  have future : pipe.events.now ≤ Clock.edge pipe.now cycles pipe.component.config.clockPeriod :=
    Clock.le_edge punctual.period
  have fits : pipe.component.gate.requests.capacity + 1 < 2 ^ 32 := by
    rw [punctual.requestCapacity]
    exact uncongested.fits
  have responses : source.accepted.stats.responses = pipe.requester.peer.stats.responses :=
    offers.accepted_responses
  have sent : (pipe.admitting source packet
      (Clock.edge pipe.now cycles pipe.component.config.clockPeriod)).sent = pipe.sent :=
    congrArg (· + _) responses
  have counted := punctual.created.advance uncongested.toPositive.strictMono_issueTick more
    (Nat.le_of_eq due)
  refine ⟨_, { punctual with
    toOrdered := ordered
    awaits := awaits
    held := held
    workload := workload.trans punctual.workload
    timed := punctual.timed.enter fits room future packet
    stats := ?_
    created := one_more.symm ▸ counted
    taken := ?_
    sent := sent.symm ▸ punctual.sent
    returned := responses.symm ▸ punctual.returned
    checked := ?_, queued := ?_ }⟩
  · change { source.stats with issued := source.stats.issued + 1 } =
      config.statsAfter source.created source.stats.responses
    rw [stats, one_more, punctual.stats]
    rfl
  · rw [forwarded_eq_add, sent]
    exact punctual.taken
  · simp only [admitting, SecureModule.admitting, Gate.withRequest, List.map_append,
      punctual.checked, elapsed, List.map_cons, List.map_nil]
  · intro request member
    rcases List.mem_append.1 member with old | new
    · exact punctual.queued request old
    · rw [List.mem_singleton.1 new]
      exact dated

/-- The next request is created when it is due, and there is room for it. -/
theorem issue (now : pipe.now = tick) {next : Pipeline} (issues : pipe.Issues (none, next)) :
    ∃ later, Punctual config next later others (tick + 1) (tick + 1) (tick + 1) (tick + 1) := by
  have able_iff := punctual.canCreate_iff uncongested
  have ordered := (punctual.toOrdered.issue issues).2
  cases issues with
  | idle quiet =>
    refine ⟨tickets, { punctual with created := punctual.created.rest ?_ }⟩
    intro more due
    rcases quiet with awaits | ⟨-, closed⟩
    · rw [punctual.awaits] at awaits
      cases awaits
    · rw [able_iff.2 ⟨more, due⟩] at closed
      cases closed
  | admitted offers policy room => exact punctual.enter uncongested now offers policy room ordered
  | refused offers full =>
    obtain ⟨able, -⟩ := offers.created_of_empty punctual.held
    obtain ⟨more, due⟩ := able_iff.1 able
    have created := punctual.created_eq_add
    -- the oldest request in the queue is not due at memory yet
    have next := punctual.taken.next (by omega)
    have room := uncongested.toPositive.lt_requestRoom (Nat.lt_of_le_of_lt (Nat.le_of_eq due) next)
    have enough := uncongested.requestRoom
    rw [punctual.requestCapacity] at full
    omega

end

end Punctual

end Pipeline

end GatedMemory
