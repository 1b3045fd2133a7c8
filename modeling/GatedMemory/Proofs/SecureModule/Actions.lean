import GatedMemory.Proofs.Erasure
import GatedMemory.Proofs.Gate
import GatedMemory.Proofs.Peers

set_option autoImplicit false

namespace GatedMemory

/-- A simulated secure module, between a requester and a memory with records. -/
abbrev Pipeline :=
  Rig SecureModule RecordedRequester RecordedMemory (SimulationEvent SecureEvent)

namespace Pipeline

def withMemory (pipe : Pipeline) (outcome : Gate × RecordedMemory) : Pipeline :=
  { pipe with component := { pipe.component with gate := outcome.1 }, memory := outcome.2 }

def withRequester (pipe : Pipeline) (outcome : Gate × RecordedRequester) : Pipeline :=
  { pipe with component := { pipe.component with gate := outcome.1 }, requester := outcome.2 }

def checkedOff (pipe : Pipeline) (slot : SlotId)
    (events : EventQueue (SimulationEvent SecureEvent)) : Pipeline :=
  { pipe with
    component := { pipe.component with gate := (pipe.component.gate.finishWait slot).2 }, events }

end Pipeline

theorem SecureModuleConfig.validate_eq_ok_iff {config : SecureModuleConfig} :
    config.validate = .ok () ↔ 0 < config.requestCapacity ∧ 0 < config.responseCapacity ∧
      0 < config.clockPeriod := by
  unfold validate
  split
  · simp only [reduceCtorEq, false_iff]
    omega
  · split
    · simp only [reduceCtorEq, false_iff]
      omega
    · simp only [true_iff]
      omega

def SecureEvent.priority : SecureEvent → Int
  | .edge => Priority.clock
  | .checkOver _ => Priority.standard

namespace SecureModule

/-- A module with nothing queued and nothing scheduled. -/
def fresh (config : SecureModuleConfig) : SecureModule :=
  { config
    gate := .empty config.requestCapacity config.responseCapacity
    driver := .idle Priority.clock
    stats := {} }

theorem build_eq_ok {config : SecureModuleConfig} (valid : config.validate = .ok ()) :
    build config = .ok (fresh config) := by
  simp only [build, valid]
  rfl

section

variable {ρ μ α : Type} [Embed SecureEvent α] {rig : Rig SecureModule ρ μ α}

/-- The module once the driver is scheduled for the next edge. -/
def awaitingEdge (rig : Rig SecureModule ρ μ α) : Rig SecureModule ρ μ α :=
  { rig with
    component := { rig.component with driver := rig.component.driver.awaiting rig.events }
    events := rig.events.scheduled (Clock.edge rig.now 1 rig.component.config.clockPeriod)
      rig.component.driver.priority (Embed.embed SecureEvent.edge) }

variable (period : 0 < rig.component.config.clockPeriod)
include period

theorem scheduleEdge_awaits (free : rig.component.driver.canSchedule = true) :
    Gives (Exceeds (Clock.edge rig.now 1 rig.component.config.clockPeriod)) (scheduleEdge rig)
      fun next => next = awaitingEdge rig := by
  have future : rig.events.now ≤ Clock.edge rig.now 1 rig.component.config.clockPeriod :=
    Clock.le_edge period
  apply (Clock.edge?_exceeds period rig.now 1).bind
  rintro _ rfl
  simp only [RepeatingEvent.scheduleNext_of_free free future]
  exact .ok rfl

theorem scheduleEdge_of_free (free : rig.component.driver.canSchedule = true) :
    Gives Overflow (scheduleEdge rig) fun next => next = awaitingEdge rig :=
  (scheduleEdge_awaits period free).weaken Allows.overflow

theorem scheduleEdge_of_busy (busy : rig.component.driver.canSchedule = false) :
    Gives Overflow (scheduleEdge rig) fun next => next = rig := by
  apply (Clock.edge?_gives period rig.now 1).bind
  rintro _ rfl
  simp only [RepeatingEvent.scheduleNext_of_busy busy]
  exact .ok rfl

end

section

variable {ρ μ α : Type} [ResponseSink ρ] [RequestSink μ] (rig : Rig SecureModule ρ μ α)

theorem edgeWork_events : (edgeWork rig).events = rig.events := by
  simp only [edgeWork, settleResponseRetry, settleRequestRetry]
  split <;> split <;> rfl

theorem edgeWork_driver : (edgeWork rig).component.driver = rig.component.driver.occurred := by
  simp only [edgeWork, settleResponseRetry, settleRequestRetry]
  split <;> split <;> rfl

end

section

variable {ρ μ α : Type} [Embed SecureEvent α] (rig : Rig SecureModule ρ μ α) {packet : Packet}
  {cycles : Nat}

/-- The module once it has admitted a request. -/
def admitting (rig : Rig SecureModule ρ μ α) (packet : Packet) (readyAt : Nat) :
    Rig SecureModule ρ μ α :=
  { rig with
    component := { rig.component with
      gate := rig.component.gate.withRequest packet
      stats := rig.component.stats.record packet.command.kind }
    events := rig.events.scheduled readyAt Priority.standard
      (Embed.embed (SecureEvent.checkOver rig.component.gate.slots.acquire.1)) }

omit [Embed SecureEvent α] in
def turningAway (rig : Rig SecureModule ρ μ α) : Rig SecureModule ρ μ α :=
  { rig with component := { rig.component with gate := rig.component.gate.withoutRequest } }

/-- What the module makes of a request whose check takes so many cycles. -/
def considering (rig : Rig SecureModule ρ μ α) (packet : Packet) (cycles : Nat) :
    Except RunError Delivery × Rig SecureModule ρ μ α :=
  if rig.component.gate.requests.items.length < rig.component.gate.requests.capacity then
    (.ok .accepted,
      admitting rig packet (Clock.edge rig.now cycles rig.component.config.clockPeriod))
  else (.ok (.rejected packet), turningAway rig)

/-- The only number that can be too large for a word is the tick at which the check would be over,
for it takes as many ticks as cycles at least. -/
theorem request_considers
    (policy : rig.component.config.holdCycles packet.command.kind = some cycles)
    (period : 0 < rig.component.config.clockPeriod) :
    Gives (Exceeds (Clock.edge rig.now cycles rig.component.config.clockPeriod))
      (request packet rig) fun result => result = considering rig packet cycles := by
  have few : cycles ≤ Clock.edge rig.now cycles rig.component.config.clockPeriod := by
    apply Nat.le_trans (Nat.le_mul_of_pos_right cycles period)
    exact Nat.le_add_left _ _
  have future : rig.events.now ≤ Clock.edge rig.now cycles rig.component.config.clockPeriod :=
    Clock.le_edge period
  have held : Gives (Exceeds (Clock.edge rig.now cycles rig.component.config.clockPeriod))
      (rig.component.config.holdCycles? packet.command.kind) fun held => held = some cycles := by
    simp only [SecureModuleConfig.holdCycles?, policy]
    apply ((toWord_exceeds cycles (.sum cycles)).weaken fun _ large => large.mono few).map
    rintro _ rfl
    rfl
  apply held.bind
  rintro _ rfl
  apply (Clock.edge?_exceeds period rig.now cycles).bind
  rintro _ rfl
  unfold considering
  by_cases room : rig.component.gate.requests.items.length < rig.component.gate.requests.capacity
  · simp only [room, ↓reduceIte, Gate.admitRequest_of_lt room future]
    exact .ok rfl
  · simp only [room, ↓reduceIte, Gate.admitRequest_of_le (Nat.not_lt.1 room)]
    exact .ok rfl

theorem request_of_lt (policy : rig.component.config.holdCycles packet.command.kind = some cycles)
    (period : 0 < rig.component.config.clockPeriod)
    (room : rig.component.gate.requests.items.length < rig.component.gate.requests.capacity) :
    Gives Overflow (request packet rig) fun result =>
      result = (.ok .accepted,
        admitting rig packet (Clock.edge rig.now cycles rig.component.config.clockPeriod)) := by
  have considers := request_considers rig policy period
  rw [considering, if_pos room] at considers
  exact considers.weaken Allows.overflow

theorem request_of_le (policy : rig.component.config.holdCycles packet.command.kind = some cycles)
    (period : 0 < rig.component.config.clockPeriod)
    (full : rig.component.gate.requests.capacity ≤ rig.component.gate.requests.items.length) :
    Gives Overflow (request packet rig) fun result =>
      result = (.ok (.rejected packet), turningAway rig) := by
  have considers := request_considers rig policy period
  rw [considering, if_neg (Nat.not_lt.2 full)] at considers
  exact considers.weaken Allows.overflow

end

variable {gate : Gate} {memory : RecordedMemory} {requester : RecordedRequester}
  {now : Nat}

/-- What offering the oldest request to memory can do. -/
inductive Forwards (gate : Gate) (memory : RecordedMemory) (now : Nat) :
    Gate × RecordedMemory → Prop where
  | idle (unable : gate.towardMemory.blocked = true ∨ gate.readyHead? = none) :
    Forwards gate memory now (gate, memory)
  | taken {head : QueuedRequest} {rest : List QueuedRequest} {answer : Packet}
    (unblocked : gate.towardMemory.blocked = false)
    (items : gate.requests.items = head :: rest) (ready : gate.slots.isReady head.slot = true)
    (room : memory.peer.hasRoom = true) (answered : head.packet.response? = some answer) :
    Forwards gate memory now
      (gate.dropHead head rest, memory.accepting head.packet answer now)
  | refused {head : QueuedRequest} {rest : List QueuedRequest}
    (unblocked : gate.towardMemory.blocked = false)
    (items : gate.requests.items = head :: rest) (ready : gate.slots.isReady head.slot = true)
    (full : memory.peer.hasRoom = false) :
    Forwards gate memory now (gate.keepHead head rest, memory.refusing head.packet now)

theorem sendRequest_forwards
    (plain : ∀ request ∈ gate.requests.items, request.packet.IsAccess) :
    Forwards gate memory now (gate.sendRequest memory now).2 := by
  have outcomes := gate.sendRequest_cases memory now
  generalize gate.sendRequest memory now = outcome at outcomes
  cases outcomes with
  | idle unable => exact .idle unable
  | @taken head rest memory' unblocked items ready offer =>
    obtain ⟨answer, answered, -⟩ := (plain head (items ▸ List.mem_cons_self)).response?
    cases room : memory.peer.hasRoom with
    | true =>
      rw [RecordedMemory.offer_of_room room answered, Prod.mk.injEq] at offer
      rw [← offer.2]
      exact .taken unblocked items ready room answered
    | false =>
      rw [RecordedMemory.offer_of_full room, Prod.mk.injEq] at offer
      cases offer.1
  | @refused head rest back memory' unblocked items ready offer =>
    obtain ⟨answer, answered, -⟩ := (plain head (items ▸ List.mem_cons_self)).response?
    cases room : memory.peer.hasRoom with
    | true =>
      rw [RecordedMemory.offer_of_room room answered, Prod.mk.injEq] at offer
      cases offer.1
    | false =>
      rw [RecordedMemory.offer_of_full room, Prod.mk.injEq, Delivery.rejected.injEq] at offer
      rw [← offer.1, ← offer.2]
      exact .refused unblocked items ready room

/-- What offering the oldest response to the requester can do. -/
inductive Delivers (gate : Gate) (requester : RecordedRequester) (now : Nat) :
    Gate × RecordedRequester → Prop where
  | idle (unable : gate.towardRequester.blocked = true ∨ gate.responses.items = []) :
    Delivers gate requester now (gate, requester)
  | taken {head : Packet} {rest : List Packet}
    (unblocked : gate.towardRequester.blocked = false)
    (items : gate.responses.items = head :: rest) :
    Delivers gate requester now
      ({ gate with responses := { gate.responses with items := rest } },
        requester.receiving head now)

theorem sendResponse_delivers :
    Delivers gate requester now (gate.sendResponse requester now).2 := by
  have outcomes := gate.sendResponse_cases requester now
  generalize gate.sendResponse requester now = outcome at outcomes
  cases outcomes with
  | idle unable => exact .idle unable
  | @taken head rest requester' unblocked items offer =>
    rw [RecordedRequester.offer_eq, Prod.mk.injEq] at offer
    rw [← offer.2]
    exact .taken unblocked items
  | @refused head back rest requester' unblocked items offer =>
    rw [RecordedRequester.offer_eq, Prod.mk.injEq] at offer
    cases offer.1

section

variable {pipe : Pipeline}

theorem drainRequest_eq : drainRequest pipe =
    pipe.withMemory (pipe.component.gate.sendRequest pipe.memory pipe.now).2 := rfl

theorem drainResponse_eq : drainResponse pipe =
    pipe.withRequester (pipe.component.gate.sendResponse pipe.requester pipe.now).2 := rfl

theorem settleRequestRetry_of_owed (owed : pipe.component.gate.towardRequester.owesRetry = true) :
    settleRequestRetry pipe =
      pipe.withRequester (pipe.component.gate.takeRequestRetry.2, pipe.requester.resuming) := by
  simp only [settleRequestRetry, Gate.takeRequestRetry, owed, ↓reduceIte]
  rfl

theorem settleRequestRetry_of_idle
    (idle : pipe.component.gate.towardRequester.owesRetry = false) :
    settleRequestRetry pipe = pipe := by
  have same : pipe.component.gate.takeRequestRetry.2 = pipe.component.gate := by
    simp only [Gate.takeRequestRetry, ← idle]
  simp only [settleRequestRetry, Gate.takeRequestRetry, idle, Bool.false_eq_true, ↓reduceIte]
  exact congrArg (fun gate => ({ pipe with component := { pipe.component with gate } } : Pipeline))
    same

/-- What holds before the retry and once the requester is told of it holds in either case. -/
theorem settleRequestRetry_keeps (holds : Pipeline → Prop) (now : holds pipe)
    (told : holds (pipe.withRequester
      (pipe.component.gate.takeRequestRetry.2, pipe.requester.resuming))) :
    holds (settleRequestRetry pipe) := by
  cases owed : pipe.component.gate.towardRequester.owesRetry with
  | false => rwa [settleRequestRetry_of_idle owed]
  | true => rwa [settleRequestRetry_of_owed owed]

theorem settleResponseRetry_of_owed (owed : pipe.component.gate.towardMemory.owesRetry = true) :
    settleResponseRetry pipe =
      pipe.withMemory (pipe.component.gate.takeResponseRetry.2, pipe.memory.resuming) := by
  simp only [settleResponseRetry, Gate.takeResponseRetry, owed, ↓reduceIte]
  rfl

theorem settleResponseRetry_of_idle
    (idle : pipe.component.gate.towardMemory.owesRetry = false) :
    settleResponseRetry pipe = pipe := by
  have same : pipe.component.gate.takeResponseRetry.2 = pipe.component.gate := by
    simp only [Gate.takeResponseRetry, ← idle]
  simp only [settleResponseRetry, Gate.takeResponseRetry, idle, Bool.false_eq_true, ↓reduceIte]
  exact congrArg (fun gate => ({ pipe with component := { pipe.component with gate } } : Pipeline))
    same

/-- What holds before the retry and once memory is told of it holds in either case. -/
theorem settleResponseRetry_keeps (holds : Pipeline → Prop) (now : holds pipe)
    (told : holds (pipe.withMemory
      (pipe.component.gate.takeResponseRetry.2, pipe.memory.resuming))) :
    holds (settleResponseRetry pipe) := by
  cases owed : pipe.component.gate.towardMemory.owesRetry with
  | false => rwa [settleResponseRetry_of_idle owed]
  | true => rwa [settleResponseRetry_of_owed owed]

end

end SecureModule

namespace Simulation

variable {ρ μ : Type}

def opening (config : SecureModuleConfig) (requester : ρ) (memory : μ) :
    Simulation SecureModule ρ μ SecureEvent :=
  begun (SecureModule.awaitingEdge (.assemble (SecureModule.fresh config) requester memory))

theorem start_opening {config : SecureModuleConfig} (period : 0 < config.clockPeriod)
    (requester : ρ) (memory : μ) :
    Gives (Exceeds (Clock.edge 0 1 config.clockPeriod))
      (start (SecureModule.fresh config) requester memory)
      fun sim => sim = opening config requester memory := by
  apply start_gives
  apply (SecureModule.scheduleEdge_awaits period rfl).mono
  rintro _ rfl
  exact ⟨rfl, rfl⟩

/-- What holds before the first tick holds of whatever is started. -/
theorem start_gives_of_opening {config : SecureModuleConfig} (period : 0 < config.clockPeriod)
    {requester : ρ} {memory : μ} {holds : Simulation SecureModule ρ μ SecureEvent → Prop}
    (opened : holds (opening config requester memory)) :
    Gives Overflow (start (SecureModule.fresh config) requester memory) holds := by
  apply ((start_opening period requester memory).weaken Allows.overflow).mono
  rintro _ rfl
  exact opened

end Simulation

namespace Pipeline

variable {pipe : Pipeline}

inductive Serves (pipe : Pipeline) : Pipeline → Prop where
  | idle (quiet : pipe.memory.peer.responseBlocked = true ∨
      ∀ entry ∈ pipe.memory.peer.serving.head?, pipe.now < entry.1) : Serves pipe pipe
  | admitted {due : Nat} {answer : Packet} {rest : List (Nat × Packet)}
    (unblocked : pipe.memory.peer.responseBlocked = false)
    (serving : pipe.memory.peer.serving = (due, answer) :: rest) (ready : due ≤ pipe.now)
    (room : pipe.component.gate.responses.items.length < pipe.component.gate.responses.capacity) :
    Serves pipe
      (pipe.withMemory (pipe.component.gate.withResponse answer, pipe.memory.withServing rest))
  | refused {due : Nat} {answer : Packet} {rest : List (Nat × Packet)}
    (unblocked : pipe.memory.peer.responseBlocked = false)
    (serving : pipe.memory.peer.serving = (due, answer) :: rest) (ready : due ≤ pipe.now)
    (full : pipe.component.gate.responses.capacity ≤ pipe.component.gate.responses.items.length) :
    Serves pipe (pipe.withMemory (pipe.component.gate.withoutResponse,
      (pipe.memory.withServing rest).puttingBack answer pipe.now))

theorem serveResponse_serves {faults : Fault → Prop} (pipe : Pipeline) :
    Gives faults (Simulation.serveResponse pipe) (Serves pipe) := by
  have outcomes := pipe.memory.takeReady_cases pipe.now
  unfold Simulation.serveResponse
  generalize ResponseSource.takeReady pipe.now pipe.memory = outcome at outcomes
  cases outcomes with
  | idle quiet => exact .ok (.idle quiet)
  | @taken due answer rest unblocked serving ready =>
    by_cases room :
        pipe.component.gate.responses.items.length < pipe.component.gate.responses.capacity
    · simp only [Intermediary.response, SecureModule.response, Gate.admitResponse_of_lt room]
      exact .ok (.admitted unblocked serving ready room)
    · have full := Nat.not_lt.1 room
      simp only [Intermediary.response, SecureModule.response, Gate.admitResponse_of_le full]
      exact .ok (.refused unblocked serving ready full)

/-- What passing on the retry that memory owes can do. -/
inductive Retries (pipe : Pipeline) : Pipeline → Prop where
  | idle (quiet : pipe.memory.peer.owesRetry = false ∨ pipe.memory.peer.hasRoom = false) :
    Retries pipe pipe
  | passed {outcome : Gate × RecordedMemory} (owed : pipe.memory.peer.owesRetry = true)
    (room : pipe.memory.peer.hasRoom = true)
    (forwards : SecureModule.Forwards pipe.component.gate.reopened pipe.memory.settling pipe.now
      outcome) : Retries pipe (pipe.withMemory outcome)

theorem passRetry_retries
    (plain : ∀ request ∈ pipe.component.gate.requests.items, request.packet.IsAccess) :
    Retries pipe (Simulation.passRetry pipe) := by
  unfold Simulation.passRetry
  by_cases owed : pipe.memory.peer.owesRetry = true
  · by_cases room : pipe.memory.peer.hasRoom = true
    · have reopened : ∀ request ∈ pipe.component.gate.reopened.requests.items,
          request.packet.IsAccess := plain
      simp only [RecordedMemory.settleRetry_of_owed owed room, ↓reduceIte]
      exact .passed owed room (SecureModule.sendRequest_forwards reopened)
    · have full := Bool.eq_false_iff.2 room
      simp only [RecordedMemory.settleRetry_of_idle (.inr full), Bool.false_eq_true, ↓reduceIte]
      exact .idle (.inr full)
  · have none := Bool.eq_false_iff.2 owed
    simp only [RecordedMemory.settleRetry_of_idle (.inl none), Bool.false_eq_true, ↓reduceIte]
    exact .idle (.inl none)

def admitting (pipe : Pipeline) (source : RequestGenerator) (packet : Packet) (readyAt : Nat) :
    Pipeline :=
  { SecureModule.admitting pipe packet readyAt with
    requester := { pipe.requester with peer := source.accepted } }

def turningAway (pipe : Pipeline) (source : RequestGenerator) (packet : Packet) : Pipeline :=
  { SecureModule.turningAway pipe with
    requester := { pipe.requester with peer := source.rejected packet } }

inductive Issues (pipe : Pipeline) : Option RunError × Pipeline → Prop where
  | idle (quiet : pipe.requester.peer.awaitsRetry = true ∨
      pipe.requester.peer.held = none ∧ pipe.requester.peer.canCreate = false) :
    Issues pipe (none, pipe)
  | admitted {packet : Packet} {source : RequestGenerator} {cycles : Nat}
    (offers : pipe.requester.peer.Offers pipe.now packet source)
    (policy : pipe.component.config.holdCycles packet.command.kind = some cycles)
    (room : pipe.component.gate.requests.items.length < pipe.component.gate.requests.capacity) :
    Issues pipe (none, pipe.admitting source packet
      (Clock.edge pipe.now cycles pipe.component.config.clockPeriod))
  | refused {packet : Packet} {source : RequestGenerator}
    (offers : pipe.requester.peer.Offers pipe.now packet source)
    (full : pipe.component.gate.requests.capacity ≤ pipe.component.gate.requests.items.length) :
    Issues pipe (none, pipe.turningAway source packet)

/-- The requester's turn, with the packet that it offers and the check that begins with it. -/
inductive Sends (pipe : Pipeline) : Option Packet → List (Nat × SlotId) → Pipeline → Prop where
  | idle (quiet : pipe.requester.peer.awaitsRetry = true ∨
      pipe.requester.peer.held = none ∧ pipe.requester.peer.canCreate = false) :
    Sends pipe none [] pipe
  | admitted {packet : Packet} {source : RequestGenerator} {cycles : Nat}
    (offers : pipe.requester.peer.Offers pipe.now packet source)
    (policy : pipe.component.config.holdCycles packet.command.kind = some cycles)
    (room : pipe.component.gate.requests.items.length < pipe.component.gate.requests.capacity) :
    Sends pipe (some packet)
      [(Clock.edge pipe.now cycles pipe.component.config.clockPeriod,
        pipe.component.gate.slots.acquire.1)]
      (pipe.admitting source packet
        (Clock.edge pipe.now cycles pipe.component.config.clockPeriod))
  | refused {packet : Packet} {source : RequestGenerator}
    (offers : pipe.requester.peer.Offers pipe.now packet source)
    (full : pipe.component.gate.requests.capacity ≤ pipe.component.gate.requests.items.length) :
    Sends pipe (some packet) [] (pipe.turningAway source packet)

theorem Sends.issues {offered : Option Packet} {opened : List (Nat × SlotId)} {next : Pipeline}
    (sends : pipe.Sends offered opened next) : pipe.Issues (none, next) := by
  cases sends with
  | idle quiet => exact .idle quiet
  | admitted offers policy room => exact .admitted offers policy room
  | refused offers full => exact .refused offers full

theorem issueRequest_sends {faults : Fault → Prop} (regular : pipe.requester.peer.Regular)
    (period : 0 < pipe.component.config.clockPeriod)
    (far : Allows faults pipe.requester.peer.workload.reach)
    (late : ∀ packet source cycles, pipe.requester.peer.Offers pipe.now packet source →
      pipe.component.config.holdCycles packet.command.kind = some cycles →
      Allows faults (Clock.edge pipe.now cycles pipe.component.config.clockPeriod)) :
    Gives faults (Simulation.issueRequest pipe) fun result => result.1 = none ∧
      ∃ offered source opened,
        TrafficSource.next pipe.now pipe.requester = .ok (offered, source) ∧
        pipe.Sends offered opened result.2 := by
  unfold Simulation.issueRequest
  apply ((RecordedRequester.next_cases regular.line pipe.now).weaken far).and_eq.bind
  rintro outcome ⟨found, cases⟩
  rw [found]
  cases cases with
  | idle quiet => exact .ok ⟨rfl, _, _, _, rfl, .idle quiet⟩
  | @offers packet source offers =>
    have access := offers.access regular
    obtain ⟨cycles, policy⟩ : ∃ cycles,
        pipe.component.config.holdCycles packet.command.kind = some cycles := by
      rcases access.kind with kind | kind <;> exact ⟨_, by rw [kind]; rfl⟩
    have considers := SecureModule.request_considers
      { pipe with requester := { pipe.requester with peer := source } } policy period
    apply (considers.weaken (late packet source cycles offers policy)).bind
    rintro _ rfl
    unfold SecureModule.considering
    by_cases room :
        pipe.component.gate.requests.items.length < pipe.component.gate.requests.capacity
    · simp only [room, ↓reduceIte]
      exact .ok ⟨rfl, _, _, _, rfl, .admitted offers policy room⟩
    · simp only [room, ↓reduceIte]
      exact .ok ⟨rfl, _, _, _, rfl, .refused offers (Nat.not_lt.1 room)⟩

end Pipeline

end GatedMemory
