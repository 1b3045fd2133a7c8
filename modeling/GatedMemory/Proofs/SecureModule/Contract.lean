import GatedMemory.Peer.Scripted
import GatedMemory.Proofs.Completions
import GatedMemory.Proofs.SecureModule.Actions

set_option autoImplicit false

namespace GatedMemory

variable {ρ μ : Type}

/-- A requester that rejects hands back the packet that it was offered. -/
def ResponseSink.Honest (ρ : Type) [ResponseSink ρ] : Prop :=
  ∀ (packet back : Packet) (now : Nat) (requester requester' : ρ),
    ResponseSink.offer packet now requester = (.rejected back, requester') → back = packet

/-- A memory that rejects hands back the packet that it was offered. -/
def RequestSink.Honest (μ : Type) [RequestSink μ] : Prop :=
  ∀ (packet back : Packet) (now : Nat) (memory memory' : μ),
    RequestSink.offer packet now memory = (.rejected back, memory') → back = packet

theorem ScriptedRequester.honest : ResponseSink.Honest ScriptedRequester := by
  intro packet back now requester requester' offer
  simp only [ResponseSink.offer] at offer
  split at offer
  · simp at offer
  · simp only [Prod.mk.injEq, Delivery.rejected.injEq] at offer
    exact offer.1.symm

theorem ScriptedMemory.honest : RequestSink.Honest ScriptedMemory := by
  intro packet back now memory memory' offer
  simp only [RequestSink.offer] at offer
  split at offer
  · simp at offer
  · simp only [Prod.mk.injEq, Delivery.rejected.injEq] at offer
    exact offer.1.symm

/-- Whatever the answer is, the record of a memory holds it. -/
theorem Recorded.offerRequest_eq [RequestSink μ] {memory memory' : Recorded μ} {packet : Packet}
    {now : Nat} {delivery : Delivery}
    (offer : RequestSink.offer packet now memory = (delivery, memory')) :
    memory' = memory.note memory'.peer (.offered now packet delivery) ∧
      RequestSink.offer packet now memory.peer = (delivery, memory'.peer) := by
  simp only [RequestSink.offer, Prod.mk.injEq] at offer
  obtain ⟨rfl, rfl⟩ := offer
  exact ⟨rfl, rfl⟩

theorem Recorded.offerResponse_eq [ResponseSink ρ] {requester requester' : Recorded ρ}
    {packet : Packet} {now : Nat} {delivery : Delivery}
    (offer : ResponseSink.offer packet now requester = (delivery, requester')) :
    requester' = requester.note requester'.peer (.offered now packet delivery) ∧
      ResponseSink.offer packet now requester.peer = (delivery, requester'.peer) := by
  simp only [ResponseSink.offer, Prod.mk.injEq] at offer
  obtain ⟨rfl, rfl⟩ := offer
  exact ⟨rfl, rfl⟩

/-- What can happen to a secure module. -/
inductive SessionOp (ρ μ : Type) where
  | start
  | stop
  | request (packet : Packet)
  | response (packet : Packet)
  /-- Memory can take requests again. -/
  | requestRetry
  /-- The requester can take responses again. -/
  | responseRetry
  /-- The next event fires. -/
  | fire
  /-- Time passes, as far as no event is due before. -/
  | wait (tick : Nat)
  /-- The peers change of themselves. -/
  | change (requester : ρ) (memory : μ)

/-- A secure module between peers with records, and what it has admitted. -/
structure Session (ρ μ : Type) where
  rig : Rig SecureModule (Recorded ρ) (Recorded μ) SecureEvent
  /-- Requests, each with the tick at which it was admitted, oldest first. -/
  admitted : List (Nat × Packet)
  /-- Responses, oldest first. -/
  answered : List Packet

namespace Session

def opening (config : SecureModuleConfig) (requester : ρ) (memory : μ) : Session ρ μ :=
  { rig := .assemble (SecureModule.fresh config) (.blank requester) (.blank memory)
    admitted := [], answered := [] }

def perform [ResponseSink ρ] [RequestSink μ] (session : Session ρ μ) :
    SessionOp ρ μ → Except Fault (Session ρ μ)
  | .start => do return { session with rig := ← Intermediary.start session.rig }
  | .stop => .ok { session with rig := Intermediary.windDown session.rig }
  | .request packet => do
    let (answer, rig) ← Intermediary.request packet session.rig
    match answer with
    | .ok .accepted =>
      return { session with rig, admitted := session.admitted ++ [(session.rig.now, packet)] }
    | _ => return { session with rig }
  | .response packet => do
    let (delivery, rig) ← Intermediary.response packet session.rig
    match delivery with
    | .accepted => return { session with rig, answered := session.answered ++ [packet] }
    | .rejected _ => return { session with rig }
  | .requestRetry => .ok { session with rig := Intermediary.requestRetry session.rig }
  | .responseRetry => .ok { session with rig := Intermediary.responseRetry session.rig }
  | .fire => do
    let (_, rig) ← session.rig.step
    return { session with rig }
  | .wait tick =>
    if ∀ entry ∈ session.rig.events.pending, tick ≤ entry.tick then
      .ok { session with
        rig := { session.rig with events := session.rig.events.moveTo tick } }
    else .ok session
  | .change requester memory =>
    .ok { session with
      rig := { session.rig with
        requester := { session.rig.requester with peer := requester }
        memory := { session.rig.memory with peer := memory } } }

/-- The check of an admitted request is over at the tick of its ticket. -/
def Waits (config : SecureModuleConfig) (admission : Nat × Packet) (ticket : Ticket) : Prop :=
  ∃ cycles, config.holdCycles admission.2.command.kind = some cycles ∧
    ticket.readyAt = Clock.edge admission.1 cycles config.clockPeriod

/-- The oldest request of a queue was admitted next after those that were taken from it, and it has
the first ticket. -/
theorem exists_admission {config : SecureModuleConfig} {gate : Gate} {taken : List Packet}
    {admitted : List (Nat × Packet)} {tickets : List Ticket} {head : QueuedRequest}
    {rest : List QueuedRequest}
    (requests : taken ++ gate.requests.items.map QueuedRequest.packet = admitted.map Prod.snd)
    (waits : List.Forall₂ (Waits config) (admitted.drop taken.length) tickets)
    (tracks : gate.Tracks tickets) (items : gate.requests.items = head :: rest) :
    ∃ admission ticket, admitted[taken.length]? = some admission ∧ admission.2 = head.packet ∧
      ticket ∈ tickets ∧ ticket.slot = head.slot ∧ Waits config admission ticket := by
  have packets := congrArg (List.drop taken.length) requests
  rw [List.drop_left, ← List.map_drop, items, List.map_cons] at packets
  obtain ⟨admission, later, left, packet, -⟩ := List.map_eq_cons_iff.1 packets.symm
  rw [left] at waits
  obtain ⟨ticket, others, first, -, rfl⟩ := List.forall₂_cons_left_iff.1 waits
  obtain ⟨ticket', _, same, slot⟩ := tracks.head_ticket items
  obtain ⟨rfl, -⟩ := List.cons.inj same
  refine ⟨admission, ticket, ?_, packet, List.mem_cons_self, slot, first⟩
  rw [← List.head?_drop, left]
  rfl

theorem waits_enter {config : SecureModuleConfig} {admitted : List (Nat × Packet)}
    {tickets : List Ticket} {count : Nat} {admission : Nat × Packet} {ticket : Ticket}
    (waits : List.Forall₂ (Waits config) (admitted.drop count) tickets)
    (inside : count ≤ admitted.length) (last : Waits config admission ticket) :
    List.Forall₂ (Waits config) ((admitted ++ [admission]).drop count) (tickets ++ [ticket]) := by
  rw [List.drop_append_of_le_length inside]
  exact List.rel_append waits (.cons last .nil)

/-- An offer of a packet that follows `count` others which memory has taken comes after the
security check of that packet. -/
def InTime (config : SecureModuleConfig) (admitted : List (Nat × Packet)) (count tick : Nat)
    (packet : Packet) : Prop :=
  ∃ admission cycles, admitted[count]? = some (admission, packet) ∧
    config.holdCycles packet.command.kind = some cycles ∧
    Clock.edge admission cycles config.clockPeriod ≤ tick

/-- Each offer to memory is of the oldest request that memory has not taken, and in time. -/
def Timely (config : SecureModuleConfig) (admitted : List (Nat × Packet))
    (log : List Exchange) : Prop :=
  ∀ before tick packet delivery later, log = before ++ .offered tick packet delivery :: later →
    InTime config admitted (before.filterMap Exchange.taken?).length tick packet

namespace Timely

variable {config : SecureModuleConfig} {admitted : List (Nat × Packet)} {log : List Exchange}
  (timely : Timely config admitted log)
include timely

theorem enter (admission : Nat × Packet) : Timely config (admitted ++ [admission]) log := by
  intro before tick packet delivery later split
  obtain ⟨admission, cycles, found, policy⟩ := timely before tick packet delivery later split
  exact ⟨admission, cycles, List.getElem?_append_left (List.getElem?_eq_some_iff.1 found).1 ▸ found,
    policy⟩

theorem offered {tick : Nat} {packet : Packet}
    (due : InTime config admitted (log.filterMap Exchange.taken?).length tick packet)
    (delivery : Delivery) : Timely config admitted (log ++ [.offered tick packet delivery]) := by
  intro before tick' packet' delivery' later split
  rcases concat_eq_append_cons split with ⟨-, same, rfl⟩ | ⟨later, -, earlier⟩
  · cases same
    exact due
  · exact timely before tick' packet' delivery' later earlier

theorem retried : Timely config admitted (log ++ [.retried]) := by
  intro before tick packet delivery later split
  rcases concat_eq_append_cons split with ⟨-, same, -⟩ | ⟨later, -, earlier⟩
  · cases same
  · exact timely before tick packet delivery later earlier

end Timely

variable {config : SecureModuleConfig} {session : Session ρ μ} {tickets : List Ticket}
  {edges : List (Nat × SecureEvent)}

/-- What every session keeps: `tickets` stand for the queued requests, and `edges` for the clock
edges to come. -/
structure Keeps (config : SecureModuleConfig) (session : Session ρ μ) (tickets : List Ticket)
    (edges : List (Nat × SecureEvent)) : Prop where
  configured : session.rig.component.config = config
  sized : session.rig.component.gate.requests.capacity = config.requestCapacity
  timed : session.rig.component.gate.Timed SecureEvent.checkOver session.rig.events tickets edges
  onlyEdges : ∀ edge ∈ edges, edge.2 = .edge
  driver : ∀ id ∈ session.rig.component.driver.pending, id < session.rig.events.nextId ∧
    ∀ entry ∈ session.rig.events.pending, entry.id = id → entry.payload = .edge
  requests : session.rig.memory.taken ++
    session.rig.component.gate.requests.items.map QueuedRequest.packet =
      session.admitted.map Prod.snd
  responses : session.rig.requester.taken ++ session.rig.component.gate.responses.items =
    session.answered
  waits :
    List.Forall₂ (Waits config) (session.admitted.drop session.rig.memory.taken.length) tickets
  timely : Timely config session.admitted session.rig.memory.log

theorem opening_keeps (config : SecureModuleConfig) (requester : ρ) (memory : μ) :
    Keeps config (opening config requester memory) [] [] where
  configured := rfl
  sized := rfl
  timed := Gate.timed_empty SecureEvent.checkOver config.requestCapacity config.responseCapacity
  onlyEdges := nofun
  driver := nofun
  requests := rfl
  responses := rfl
  waits := .nil
  timely before tick packet delivery later split := by
    have empty : [] = before ++ .offered tick packet delivery :: later := split
    simp at empty

namespace Keeps

variable (keeps : Keeps config session tickets edges)
include keeps

/-- The oldest request was admitted next after those that memory has taken, and once its marker is
ready its check is over. -/
theorem inTime {head : QueuedRequest} {rest : List QueuedRequest}
    (items : session.rig.component.gate.requests.items = head :: rest)
    (ready : session.rig.component.gate.slots.isReady head.slot = true) :
    InTime config session.admitted session.rig.memory.taken.length session.rig.now
      head.packet := by
  obtain ⟨admission, ticket, found, packet, member, slot, cycles, policy, readyAt⟩ :=
    exists_admission keeps.requests keeps.waits keeps.timed.tracks items
  refine ⟨admission.1, cycles, ?_, packet ▸ policy, ?_⟩
  · rw [found, ← packet]
  · rw [← readyAt]
    exact keeps.timed.matured ticket member (slot ▸ ready)

theorem send [RequestSink μ] (honest : RequestSink.Honest μ) : ∃ tickets,
    Keeps config { session with rig := SecureModule.drainRequest session.rig } tickets edges := by
  have outcomes := session.rig.component.gate.sendRequest_cases session.rig.memory session.rig.now
  unfold SecureModule.drainRequest
  generalize session.rig.component.gate.sendRequest session.rig.memory session.rig.now = outcome
    at outcomes
  cases outcomes with
  | idle => exact ⟨tickets, keeps⟩
  | @taken head rest memory' _ items ready offer =>
    have inTime := keeps.inTime items ready
    obtain ⟨noted, -⟩ := Recorded.offerRequest_eq offer
    have taken : memory'.taken = session.rig.memory.taken ++ [head.packet] := by
      rw [noted, Recorded.taken_note]
      rfl
    refine ⟨tickets.tail, { keeps with
      timed := keeps.timed.depart items ready, requests := ?_, waits := ?_, timely := ?_ }⟩
    · have requests := keeps.requests
      rw [items, List.map_cons] at requests
      simp only [Gate.dropHead, taken, List.append_assoc, List.singleton_append]
      exact requests
    · have waits := List.forall₂_drop 1 keeps.waits
      rw [List.drop_drop, List.drop_one] at waits
      simp only [taken, List.length_append, List.length_singleton]
      exact waits
    · rw [noted]
      exact keeps.timely.offered inTime _
  | @refused head rest back memory' _ items ready offer =>
    have inTime := keeps.inTime items ready
    obtain ⟨noted, answer⟩ := Recorded.offerRequest_eq offer
    obtain rfl := honest _ _ _ _ _ answer
    have taken : memory'.taken = session.rig.memory.taken := by
      rw [noted, Recorded.taken_note]
      exact List.append_nil _
    refine ⟨tickets, { keeps with
      timed := keeps.timed.stay items head.packet, requests := ?_, waits := ?_, timely := ?_ }⟩
    · have requests := keeps.requests
      rw [items] at requests
      simp only [Gate.keepHead, taken]
      exact requests
    · simp only [taken]
      exact keeps.waits
    · rw [noted]
      exact keeps.timely.offered inTime _

theorem deliver [ResponseSink ρ] (honest : ResponseSink.Honest ρ) :
    Keeps config { session with rig := SecureModule.drainResponse session.rig } tickets edges := by
  have outcomes :=
    session.rig.component.gate.sendResponse_cases session.rig.requester session.rig.now
  unfold SecureModule.drainResponse
  generalize session.rig.component.gate.sendResponse session.rig.requester session.rig.now = outcome
    at outcomes
  cases outcomes with
  | idle => exact keeps
  | @taken head rest requester' _ items offer =>
    obtain ⟨noted, -⟩ := Recorded.offerResponse_eq offer
    have taken : requester'.taken = session.rig.requester.taken ++ [head] := by
      rw [noted, Recorded.taken_note]
      rfl
    refine { keeps with timed := keeps.timed.congr rfl rfl rfl, responses := ?_ }
    have responses := keeps.responses
    rw [items] at responses
    simp only [taken, List.append_assoc, List.singleton_append]
    exact responses
  | @refused head back rest requester' _ items offer =>
    obtain ⟨noted, answer⟩ := Recorded.offerResponse_eq offer
    obtain rfl := honest _ _ _ _ _ answer
    have taken : requester'.taken = session.rig.requester.taken := by
      rw [noted, Recorded.taken_note]
      exact List.append_nil _
    refine { keeps with timed := keeps.timed.congr rfl rfl rfl, responses := ?_ }
    have responses := keeps.responses
    rw [items] at responses
    simp only [taken]
    exact responses

theorem settleRequestRetry [ResponseSink ρ] : Keeps config
    { session with rig := SecureModule.settleRequestRetry session.rig } tickets edges := by
  have flags : Keeps config { session with rig := { session.rig with
      component := { session.rig.component with
        gate := session.rig.component.gate.takeRequestRetry.2 } } } tickets edges :=
    { keeps with timed := keeps.timed.congr rfl rfl rfl }
  unfold SecureModule.settleRequestRetry
  cases owed : session.rig.component.gate.towardRequester.owesRetry with
  | false =>
    simp only [Gate.takeRequestRetry, owed, Bool.false_eq_true, ↓reduceIte] at flags ⊢
    exact flags
  | true =>
    simp only [Gate.takeRequestRetry, owed, ↓reduceIte] at flags ⊢
    have taken : (ResponseSink.requestRetry session.rig.requester).taken =
        session.rig.requester.taken :=
      (Recorded.taken_note _ _ _).trans (List.append_nil _)
    refine { flags with responses := ?_ }
    simp only [taken]
    exact flags.responses

theorem settleResponseRetry [RequestSink μ] : Keeps config
    { session with rig := SecureModule.settleResponseRetry session.rig } tickets edges := by
  have flags : Keeps config { session with rig := { session.rig with
      component := { session.rig.component with
        gate := session.rig.component.gate.takeResponseRetry.2 } } } tickets edges :=
    { keeps with timed := keeps.timed.congr rfl rfl rfl }
  unfold SecureModule.settleResponseRetry
  cases owed : session.rig.component.gate.towardMemory.owesRetry with
  | false =>
    simp only [Gate.takeResponseRetry, owed, Bool.false_eq_true, ↓reduceIte] at flags ⊢
    exact flags
  | true =>
    simp only [Gate.takeResponseRetry, owed, ↓reduceIte] at flags ⊢
    have taken : (RequestSink.responseRetry session.rig.memory).taken =
        session.rig.memory.taken :=
      (Recorded.taken_note _ _ _).trans (List.append_nil _)
    refine { flags with requests := ?_, waits := ?_, timely := flags.timely.retried }
    · simp only [taken]
      exact flags.requests
    · simp only [taken]
      exact flags.waits

theorem edgeWork [ResponseSink ρ] [RequestSink μ] (honest : ResponseSink.Honest ρ)
    (honest' : RequestSink.Honest μ) : ∃ tickets,
    Keeps config { session with rig := SecureModule.edgeWork session.rig } tickets edges := by
  have fired : Keeps config { session with rig := SecureModule.edgeFired session.rig } tickets
      edges := { keeps with driver := nofun }
  obtain ⟨tickets, sent⟩ := fired.send honest'
  exact ⟨tickets, (sent.deliver honest).settleRequestRetry.settleResponseRetry⟩

/-- The driver is scheduled for the next edge, unless it is stopped or was scheduled before. -/
theorem scheduleEdge (period : 0 < config.clockPeriod) :
    Gives Overflow (SecureModule.scheduleEdge session.rig) fun rig =>
      ∃ edges, Keeps config { session with rig } tickets edges := by
  have period' : 0 < session.rig.component.config.clockPeriod := by
    rw [keeps.configured]
    exact period
  cases free : session.rig.component.driver.canSchedule with
  | false =>
    apply (SecureModule.scheduleEdge_of_busy period' free).mono
    rintro _ rfl
    exact ⟨edges, keeps⟩
  | true =>
    have future : session.rig.events.now ≤
        Clock.edge session.rig.now 1 session.rig.component.config.clockPeriod :=
      Clock.le_edge period'
    apply (SecureModule.scheduleEdge_of_free period' free).mono
    rintro _ rfl
    refine ⟨_, { keeps with
      timed := keeps.timed.schedule future _ _, onlyEdges := ?_, driver := ?_ }⟩
    · intro edge member
      rcases List.mem_cons.1 member with rfl | member
      · rfl
      · exact keeps.onlyEdges edge member
    · intro id pending
      obtain rfl : session.rig.events.nextId = id := Option.some.inj pending
      refine ⟨Nat.lt_succ_self _, fun entry member same => ?_⟩
      rcases EventQueue.mem_scheduled.1 member with rfl | member
      · rfl
      · exact absurd same (Nat.ne_of_lt (keeps.timed.awaits.sound.numbered entry member))

theorem stop : ∃ edges,
    Keeps config { session with rig := SecureModule.stop session.rig } tickets edges := by
  cases pending : session.rig.component.driver.pending with
  | none =>
    refine ⟨edges, { keeps with timed := ?_, driver := nofun }⟩
    simp only [SecureModule.stop, RepeatingEvent.halt, pending, Option.elim_none]
    exact keeps.timed
  | some id =>
    obtain ⟨-, names⟩ := keeps.driver id pending
    have only : ∀ entry ∈ session.rig.events.pending, entry.id = id →
        ∀ slot, entry.payload ≠ .checkOver slot := by
      intro entry member same slot
      rw [names entry member same]
      simp
    have apart : ∀ edge ∈ edges, ∀ slot, edge.2 ≠ .checkOver slot := by
      intro edge member slot
      rw [keeps.onlyEdges edge member]
      simp
    obtain ⟨left, inside, timed⟩ := keeps.timed.cancel only apart
    refine ⟨left, { keeps with
      timed := ?_, onlyEdges := fun edge member => keeps.onlyEdges edge (inside member)
      driver := nofun }⟩
    simp only [SecureModule.stop, RepeatingEvent.halt, pending, Option.elim_some]
    exact timed

theorem request [ResponseSink ρ] [RequestSink μ] (period : 0 < config.clockPeriod)
    (fits : config.requestCapacity + 1 < 2 ^ 32) (packet : Packet) :
    Gives Overflow (session.perform (.request packet)) fun next =>
      ∃ tickets, Keeps config next tickets edges := by
  have period' : 0 < session.rig.component.config.clockPeriod := by
    rw [keeps.configured]
    exact period
  have fits' : session.rig.component.gate.requests.capacity + 1 < 2 ^ 32 := by
    rw [keeps.sized]
    exact fits
  cases policy : session.rig.component.config.holdCycles packet.command.kind with
  | none =>
    simp only [perform, Intermediary.request, SecureModule.request,
      SecureModuleConfig.holdCycles?, policy, ok_bind]
    exact .ok ⟨tickets, keeps⟩
  | some cycles =>
    by_cases room : session.rig.component.gate.requests.items.length <
        session.rig.component.gate.requests.capacity
    · apply (SecureModule.request_of_lt session.rig policy period' room).bind
      rintro _ rfl
      have future : session.rig.events.now ≤
          Clock.edge session.rig.now cycles session.rig.component.config.clockPeriod :=
        Clock.le_edge period'
      have length := congrArg List.length keeps.requests
      simp only [List.length_append, List.length_map] at length
      refine .ok ⟨_, { keeps with
        timed := keeps.timed.enter fits' room future packet, driver := ?_, requests := ?_
        waits := ?_, timely := keeps.timely.enter _ }⟩
      · intro id pending
        obtain ⟨before, names⟩ := keeps.driver id pending
        refine ⟨Nat.lt_succ_of_lt before, fun entry member same => ?_⟩
        rcases EventQueue.mem_scheduled.1 member with rfl | member
        · exact absurd same (Nat.ne_of_gt before)
        · exact names entry member same
      · have requests := keeps.requests
        simp only [SecureModule.admitting, Gate.withRequest, List.map_append, List.map_cons,
          List.map_nil, ← requests, List.append_assoc]
      · have inside : session.rig.memory.taken.length ≤ session.admitted.length := by omega
        refine waits_enter keeps.waits inside ⟨cycles, ?_, ?_⟩
        · rw [← keeps.configured]
          exact policy
        · rw [← keeps.configured]
    · have full := Nat.not_lt.1 room
      apply (SecureModule.request_of_le session.rig policy period' full).bind
      rintro _ rfl
      exact .ok ⟨tickets, { keeps with timed := keeps.timed.turnAway fits' }⟩

theorem response [ResponseSink ρ] [RequestSink μ] (packet : Packet) :
    Gives Overflow (session.perform (.response packet)) fun next =>
      Keeps config next tickets edges := by
  by_cases room : session.rig.component.gate.responses.items.length <
      session.rig.component.gate.responses.capacity
  · simp only [perform, Intermediary.response, SecureModule.response,
      Gate.admitResponse_of_lt room, ok_bind]
    refine .ok { keeps with timed := keeps.timed.congr rfl rfl rfl, responses := ?_ }
    simp only [Gate.withResponse, ← keeps.responses, List.append_assoc]
  · simp only [perform, Intermediary.response, SecureModule.response,
      Gate.admitResponse_of_le (Nat.not_lt.1 room), ok_bind]
    exact .ok { keeps with timed := keeps.timed.congr rfl rfl rfl }

theorem requestRetry [RequestSink μ] (honest : RequestSink.Honest μ) : ∃ tickets,
    Keeps config { session with rig := SecureModule.requestRetry session.rig } tickets edges := by
  have reopened : Keeps config { session with rig := { session.rig with
      component := { session.rig.component with
        gate := session.rig.component.gate.reopened } } } tickets edges :=
    { keeps with timed := keeps.timed.congr rfl rfl rfl }
  exact reopened.send honest

theorem fire [ResponseSink ρ] [RequestSink μ] (period : 0 < config.clockPeriod)
    (honest : ResponseSink.Honest ρ) (honest' : RequestSink.Honest μ) :
    Gives Overflow (session.perform .fire) fun next =>
      ∃ tickets edges, Keeps config next tickets edges := by
  unfold perform Rig.step
  cases next : session.rig.events.takeNext with
  | none => exact .ok ⟨tickets, edges, keeps⟩
  | some fired =>
    obtain ⟨entry, rest, pending, rfl⟩ := EventQueue.takeNext_eq_some_iff.1 next
    have driver : ∀ id ∈ session.rig.component.driver.pending, id < session.rig.events.nextId ∧
        ∀ other ∈ rest, other.id = id → other.payload = .edge := by
      intro id waiting
      obtain ⟨before, names⟩ := keeps.driver id waiting
      refine ⟨before, fun other member => names other ?_⟩
      rw [pending]
      exact List.mem_cons_of_mem _ member
    rcases keeps.timed.fires pending with other | ⟨ticket, waits, completes⟩
    · have edge : entry.payload = .edge := keeps.onlyEdges _ other
      have fired : Keeps config { session with rig := { session.rig with
          events := session.rig.events.after entry rest } } tickets
          (edges.erase (entry.tick, entry.payload)) :=
        { keeps with
          timed := keeps.timed.fire pending (List.perm_cons_erase other)
          onlyEdges := fun edge member => keeps.onlyEdges edge (List.mem_of_mem_erase member)
          driver := driver }
      obtain ⟨tickets, worked⟩ := fired.edgeWork honest honest'
      have scheduled := worked.scheduleEdge period
      simp only [edge, Intermediary.handle, SecureModule.handle, SecureModule.onEdge_eq, bind_assoc]
      exact scheduled.bind fun rig kept => .ok ⟨tickets, kept⟩
    · have slot : entry.payload = .checkOver ticket.slot := (congrArg Prod.snd completes).symm
      simp only [slot, Intermediary.handle, SecureModule.handle, ok_bind]
      exact .ok ⟨tickets, edges, { keeps with
        timed := keeps.timed.finish pending waits completes, driver := driver }⟩

theorem wait [ResponseSink ρ] [RequestSink μ] (tick : Nat) :
    Gives Overflow (session.perform (.wait tick)) fun next => Keeps config next tickets edges := by
  simp only [perform]
  split
  case isTrue idle => exact .ok { keeps with timed := keeps.timed.wait idle }
  case isFalse => exact .ok keeps

end Keeps

theorem perform_keeps [ResponseSink ρ] [RequestSink μ] (honest : ResponseSink.Honest ρ)
    (honest' : RequestSink.Honest μ) (period : 0 < config.clockPeriod)
    (fits : config.requestCapacity + 1 < 2 ^ 32) (session : Session ρ μ) (op : SessionOp ρ μ)
    (kept : ∃ tickets edges, Keeps config session tickets edges) :
    Gives Overflow (session.perform op) fun next =>
      ∃ tickets edges, Keeps config next tickets edges := by
  obtain ⟨tickets, edges, keeps⟩ := kept
  cases op with
  | start => exact (keeps.scheduleEdge period).bind fun rig kept => .ok ⟨tickets, kept⟩
  | stop => exact .ok ⟨tickets, keeps.stop⟩
  | request packet =>
    refine (keeps.request period fits packet).mono ?_
    rintro next ⟨tickets, kept⟩
    exact ⟨tickets, edges, kept⟩
  | response packet => exact (keeps.response packet).mono fun next kept => ⟨tickets, edges, kept⟩
  | requestRetry =>
    obtain ⟨tickets, kept⟩ := keeps.requestRetry honest'
    exact .ok ⟨tickets, edges, kept⟩
  | responseRetry =>
    exact .ok ⟨tickets, edges, { keeps with timed := keeps.timed.congr rfl rfl rfl }⟩
  | fire => exact keeps.fire period honest honest'
  | wait tick => exact (keeps.wait tick).mono fun next kept => ⟨tickets, edges, kept⟩
  | change requester memory => exact .ok ⟨tickets, edges, { keeps with }⟩

/-- Whatever is done to a module, what memory has taken and what is queued for it are the admitted
requests, what the requester has taken and what is queued for it are the admitted responses, and
each offer to memory comes no earlier than the end of the security check of its request. -/
theorem first_in_first_out [ResponseSink ρ] [RequestSink μ] (honest : ResponseSink.Honest ρ)
    (honest' : RequestSink.Honest μ) (config : SecureModuleConfig)
    (valid : config.validate = .ok ()) (fits : config.requestCapacity + 1 < 2 ^ 32)
    (requester : ρ) (memory : μ) (ops : List (SessionOp ρ μ)) :
    SecureModule.build config = .ok (opening config requester memory).rig.component ∧
    Gives Overflow (ops.foldlM perform (opening config requester memory)) fun session =>
      session.rig.memory.taken ++
          session.rig.component.gate.requests.items.map QueuedRequest.packet =
        session.admitted.map Prod.snd ∧
      session.rig.requester.taken ++ session.rig.component.gate.responses.items =
        session.answered ∧
      Timely config session.admitted session.rig.memory.log := by
  have period := (SecureModuleConfig.validate_eq_ok_iff.1 valid).2.2
  refine ⟨SecureModule.build_eq_ok valid, ?_⟩
  apply (Gives.foldlM (perform_keeps honest honest' period fits) ops
    ⟨[], [], opening_keeps config requester memory⟩).mono
  rintro session ⟨tickets, edges, keeps⟩
  exact ⟨keeps.requests, keeps.responses, keeps.timely⟩

/-- A memory that refuses the first request, and takes it when it asks for it; the second one is
queued meanwhile. -/
theorem first_in_first_out_refused_once :
    SecureModuleConfig.validate { requestCapacity := 2 } = .ok () ∧ 2 + 1 < 2 ^ 32 ∧
    SecureModule.build { requestCapacity := 2 } =
      .ok (opening { requestCapacity := 2 } ({} : ScriptedRequester)
        ({ accepting := false } : ScriptedMemory)).rig.component ∧
    Yields (List.foldlM perform (opening { requestCapacity := 2 } ({} : ScriptedRequester)
        ({ accepting := false } : ScriptedMemory))
        [.start, .request (.read 0 0 0), .request (.write 1 64 0), .fire, .fire, .fire, .fire,
          .fire, .fire, .change {} {}, .requestRetry, .response (.read 0 0 0)]) fun session =>
      session.rig.memory.taken ++
          session.rig.component.gate.requests.items.map QueuedRequest.packet =
        session.admitted.map Prod.snd ∧
      session.rig.requester.taken ++ session.rig.component.gate.responses.items =
        session.answered ∧
      Timely { requestCapacity := 2 } session.admitted session.rig.memory.log :=
  have order := first_in_first_out ScriptedRequester.honest ScriptedMemory.honest
    { requestCapacity := 2 } rfl (by decide) {} { accepting := false }
  ⟨rfl, by decide, (order []).1, (order _).2.yields_of_isOk rfl⟩

end Session

end GatedMemory
