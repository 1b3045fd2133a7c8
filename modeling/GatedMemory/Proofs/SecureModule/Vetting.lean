import GatedMemory.Proofs.Markers
import GatedMemory.Proofs.SecureModule.Course
import Mathlib.Data.List.Forall2

/-!
No request of a simulated secure module gets around its check. From the tick at which it was created
a request waits out its check, then the latency of memory, and its response leaves the module at a
later tick. A slot tells whether a check is over, and it can tell as long as the slots in use have
indices of their own.
-/

set_option autoImplicit false

namespace GatedMemory

def SecureModuleConfig.checkTime (config : SecureModuleConfig) (command : Command) : Nat :=
  (config.holdCycles command.kind).getD 0 * config.clockPeriod

/-- An answer is of the same kind as its request. -/
theorem Packet.kind_response? {request answer : Packet}
    (answered : request.response? = some answer) :
    answer.command.kind = request.command.kind := by
  obtain ⟨command, some_command, rfl⟩ := Option.map_eq_some_iff.1 answered
  cases known : request.command <;> rw [known] at some_command <;> cases some_command <;>
    rw [Command.kind_eq, Command.kind_eq]

/-- There is a check for every request that is answered. -/
theorem SecureModuleConfig.exists_holdCycles (config : SecureModuleConfig)
    {request answer : Packet} (answered : request.response? = some answer) :
    ∃ cycles, config.holdCycles request.command.kind = some cycles := by
  obtain ⟨command, some_command, -⟩ := Option.map_eq_some_iff.1 answered
  cases known : request.command <;> rw [known] at some_command <;> cases some_command <;>
    exact ⟨_, by rw [Command.kind_eq]; rfl⟩

namespace BenchmarkConfig

/-- The first tick at which the response to a request can be ready, going by when the request was
created. A response tells the same as its request. -/
def soonest (config : BenchmarkConfig) (packet : Packet) : Nat :=
  packet.createdAt + config.secureModule.checkTime packet.command + config.memory.accessLatency

/-- The number of slots that can be in use at once: one for each place of the queue and one for a
request that is turned away, but no more than there are requests under way. -/
def slotsInUse (config : BenchmarkConfig) : Nat :=
  min (config.secureModule.requestCapacity + 1)
    (min config.workload.maxOutstanding config.workload.numRequests)

/-- A response waits as long as its request. -/
theorem soonest_answer {request answer : Packet} (config : BenchmarkConfig)
    (answered : request.response? = some answer) :
    config.soonest answer = config.soonest request := by
  have created : answer.createdAt = request.createdAt := by rw [Packet.eq_of_response? answered]
  simp only [soonest, SecureModuleConfig.checkTime, created, Packet.kind_response? answered]

end BenchmarkConfig

namespace Pipeline

variable {config : BenchmarkConfig} {pipe next : Pipeline} {clock edge : Nat}
  {checks opened : List (Nat × SlotId)} {tickets : List Ticket}

/-- The request was created so early that its check can be over when its ticket says. -/
def Booked (config : SecureModuleConfig) (request : QueuedRequest) (ticket : Ticket) : Prop :=
  request.packet.createdAt + config.checkTime request.packet.command ≤ ticket.readyAt

/-- No packet is ahead of its check and of the latency of memory. -/
structure Vetted (config : BenchmarkConfig) (pipe : Pipeline) (edge : Nat)
    (checks : List (Nat × SlotId)) (tickets : List Ticket) : Prop where
  module : pipe.component.config = config.secureModule
  memory : pipe.memory.peer.config = config.memory
  capacity : pipe.component.gate.requests.capacity = config.secureModule.requestCapacity
  fits : pipe.component.gate.requests.items.length ≤ config.secureModule.requestCapacity
  tracks : pipe.component.gate.Tracks tickets
  booked : List.Forall₂ (Booked config.secureModule) pipe.component.gate.requests.items tickets
  checks : checks.Perm
    ((pipe.component.gate.unready tickets).map fun ticket => (ticket.readyAt, ticket.slot))
  matured : pipe.component.gate.Matured tickets pipe.now
  serving : ∀ entry ∈ pipe.memory.peer.serving, config.soonest entry.2 ≤ entry.1
  responses : ∀ answer ∈ pipe.component.gate.responses.items, config.soonest answer < edge
  received : ∀ receipt ∈ pipe.requester.receipts, config.soonest receipt.2 < receipt.1

namespace Vetted

/-- The oldest request goes to memory once its check is over. -/
theorem forward (vetted : Vetted config pipe edge checks tickets)
    {outcome : Gate × RecordedMemory}
    (forwards : SecureModule.Forwards pipe.component.gate pipe.memory pipe.now outcome) :
    ∃ tickets, Vetted config (pipe.withMemory outcome) edge checks tickets := by
  cases forwards with
  | idle => exact ⟨tickets, { vetted with }⟩
  | @taken head rest answer _ items ready _ answered =>
    obtain ⟨first, later, rfl, slot⟩ := vetted.tracks.head_ticket items
    have booked := vetted.booked
    have fits := vetted.fits
    rw [items] at booked fits
    obtain ⟨early, others⟩ := List.forall₂_cons.1 booked
    -- its slot is ready, so the tick of the ticket has come
    have passed : first.readyAt ≤ pipe.now :=
      vetted.matured first List.mem_cons_self (slot ▸ ready)
    refine ⟨later, { vetted with
      fits := Nat.le_of_succ_le fits
      tracks := vetted.tracks.depart items
      booked := others
      checks := ?_
      matured := vetted.tracks.matured_depart items vetted.matured
      serving := ?_ }⟩
    · have same := vetted.tracks.unready_depart items ready
      rw [List.tail_cons] at same
      rw [withMemory, same]
      exact vetted.checks
    · intro entry member
      rcases List.mem_append.1 member with old | new
      · exact vetted.serving entry old
      · rw [List.mem_singleton.1 new, config.soonest_answer answered, vetted.memory]
        exact Nat.add_le_add_right (Nat.le_trans early passed) _
  | @refused head rest _ items =>
    have same : (pipe.component.gate.keepHead head rest).requests =
        pipe.component.gate.requests := by
      simp only [Gate.keepHead, ← items]
    exact ⟨tickets, { vetted with
      capacity := same ▸ vetted.capacity
      fits := same ▸ vetted.fits
      tracks := vetted.tracks.congr rfl
        (congrArg (fun queue => queue.items.map QueuedRequest.slot) same)
      booked := same ▸ vetted.booked }⟩

/-- A response leaves at an edge, after the tick at which it came. -/
theorem deliver (vetted : Vetted config pipe pipe.now checks tickets)
    {outcome : Gate × RecordedRequester}
    (delivers : SecureModule.Delivers pipe.component.gate pipe.requester pipe.now outcome) :
    Vetted config (pipe.withRequester outcome) pipe.now checks tickets := by
  cases delivers with
  | idle => exact { vetted with }
  | @taken head rest _ items =>
    have responses := vetted.responses
    rw [items] at responses
    refine { vetted with
      tracks := { vetted.tracks with }
      responses := fun answer member => responses answer (List.mem_cons_of_mem _ member)
      received := ?_ }
    rw [withRequester, RecordedRequester.receipts_receiving]
    intro receipt member
    rcases List.mem_append.1 member with old | new
    · exact vetted.received receipt old
    · rw [List.mem_singleton.1 new]
      exact responses head List.mem_cons_self

theorem settleRequestRetry (vetted : Vetted config pipe edge checks tickets) :
    Vetted config (SecureModule.settleRequestRetry pipe) edge checks tickets := by
  apply SecureModule.settleRequestRetry_keeps (Vetted config · edge checks tickets) vetted
  refine { vetted with tracks := { vetted.tracks with }, received := ?_ }
  rw [withRequester, RecordedRequester.receipts_resuming]
  exact vetted.received

theorem settleResponseRetry (vetted : Vetted config pipe edge checks tickets) :
    Vetted config (SecureModule.settleResponseRetry pipe) edge checks tickets := by
  apply SecureModule.settleResponseRetry_keeps (Vetted config · edge checks tickets) vetted
  exact { vetted with tracks := { vetted.tracks with } }

theorem edgeWork (vetted : Vetted config pipe pipe.now checks tickets) (ordered : pipe.Ordered) :
    ∃ tickets, Vetted config (SecureModule.edgeWork pipe) pipe.now checks tickets := by
  have fired : Vetted config (SecureModule.edgeFired pipe) pipe.now checks tickets :=
    { vetted with }
  obtain ⟨tickets, sent⟩ := fired.forward (SecureModule.sendRequest_forwards ordered.plain)
  rw [← SecureModule.drainRequest_eq] at sent
  have delivered := sent.deliver SecureModule.sendResponse_delivers
  rw [← SecureModule.drainResponse_eq] at delivered
  exact ⟨tickets, delivered.settleRequestRetry.settleResponseRetry⟩

theorem mono (vetted : Vetted config pipe edge checks tickets) {later : Nat}
    (order : edge ≤ later) : Vetted config pipe later checks tickets :=
  { vetted with
    responses := fun answer member => Nat.lt_of_lt_of_le (vetted.responses answer member) order }

/-- A response that is ready joins the queue before the next edge. -/
theorem serve (vetted : Vetted config pipe edge checks tickets) (before : pipe.now < edge)
    (serves : pipe.Serves next) : Vetted config next edge checks tickets := by
  cases serves with
  | idle => exact vetted
  | @admitted due answer rest _ serving ready =>
    have ripe := vetted.serving
    rw [serving] at ripe
    refine { vetted with
      tracks := { vetted.tracks with }
      serving := fun entry member => ripe entry (List.mem_cons_of_mem _ member)
      responses := ?_ }
    intro answer' member
    rcases List.mem_append.1 member with old | new
    · exact vetted.responses answer' old
    · rw [List.mem_singleton.1 new]
      exact Nat.lt_of_le_of_lt (ripe (due, answer) List.mem_cons_self)
        (Nat.lt_of_le_of_lt ready before)
  | @refused due answer rest _ serving ready =>
    have ripe := vetted.serving
    rw [serving] at ripe
    refine { vetted with tracks := { vetted.tracks with }, serving := ?_ }
    intro entry member
    rcases List.mem_cons.1 member with rfl | other
    · exact Nat.le_trans (ripe (due, answer) List.mem_cons_self) ready
    · exact ripe entry (List.mem_cons_of_mem _ other)

theorem retry (vetted : Vetted config pipe edge checks tickets) (retries : pipe.Retries next) :
    ∃ tickets, Vetted config next edge checks tickets := by
  cases retries with
  | idle => exact ⟨tickets, vetted⟩
  | @passed outcome _ _ forwards =>
    have reopened :
        Vetted config (pipe.withMemory (pipe.component.gate.reopened, pipe.memory.settling)) edge
          checks tickets := { vetted with tracks := { vetted.tracks with } }
    exact reopened.forward forwards

theorem finish (vetted : Vetted config pipe edge checks tickets) {check : Nat × SlotId}
    (member : check ∈ checks) {events : EventQueue (SimulationEvent SecureEvent)}
    (passed : pipe.now ≤ events.now) (due : check.1 = events.now) :
    Vetted config (pipe.checkedOff check.2 events) edge (checks.erase check) tickets := by
  obtain ⟨ticket, waits, rfl⟩ := List.mem_map.1 (vetted.checks.mem_iff.1 member)
  have left := vetted.checks.trans ((vetted.tracks.unready_finish waits).map _)
  exact { vetted with
    tracks := vetted.tracks.finish waits
    checks := (left.erase _).trans (.of_eq (List.erase_cons_head _ _))
    matured := vetted.tracks.matured_finish waits (vetted.matured.mono passed) (Nat.le_of_eq due) }

theorem wait (vetted : Vetted config pipe edge checks tickets) (driver : RepeatingEvent)
    {events : EventQueue (SimulationEvent SecureEvent)} (passed : pipe.now ≤ events.now) :
    Vetted config { pipe with component := { pipe.component with driver }, events } edge checks
      tickets :=
  { vetted with matured := vetted.matured.mono passed }

/-- There are fewer requests queued than slots that can be in use when another one is offered. -/
theorem queued_lt (vetted : Vetted config pipe edge checks tickets) (ordered : pipe.Ordered)
    (creates : pipe.requester.peer.Creates config clock) {packet : Packet}
    {source : RequestGenerator} (offers : pipe.requester.peer.Offers pipe.now packet source) :
    pipe.component.gate.requests.items.length < config.slotsInUse := by
  have order := congrArg List.length ordered.order
  have issued := ordered.regular.issued
  have answered := ordered.answered
  have created := offers.created_eq ordered.regular
  have bounded := offers.created_le ordered.regular
  have window := (creates.offer ordered.regular offers).window
  obtain ⟨-, -, stats, -⟩ := offers.after
  simp only [journey, List.length_map, List.length_append, List.length_range] at order
  rw [stats] at window
  rw [creates.workload] at bounded
  have fits := vetted.fits
  -- what is queued was created and not answered, so the window bounds it too
  refine Nat.lt_min.2 ⟨by omega, Nat.lt_min.2 ⟨by omega, by omega⟩⟩

/-- There is an index left for the slot of a request that is offered. -/
theorem inUse_lt (vetted : Vetted config pipe edge checks tickets) (ordered : pipe.Ordered)
    (creates : pipe.requester.peer.Creates config clock) (few : config.slotsInUse ≤ 2 ^ 32)
    {packet : Packet} {source : RequestGenerator}
    (offers : pipe.requester.peer.Offers pipe.now packet source) :
    pipe.component.gate.slots.inUse < 2 ^ 32 := by
  have queued := vetted.queued_lt ordered creates offers
  rw [vetted.tracks.length_eq, ← vetted.tracks.count] at queued
  exact Nat.lt_of_lt_of_le queued few

/-- A request waits out its check if it is admitted, and changes no slot in use if it is not. -/
theorem send (vetted : Vetted config pipe edge checks tickets) (ordered : pipe.Ordered)
    (creates : pipe.requester.peer.Creates config clock) (few : config.slotsInUse ≤ 2 ^ 32)
    {offered : Option Packet} (early : ∀ packet ∈ offered, packet.createdAt ≤ pipe.now)
    (sends : pipe.Sends offered opened next) :
    ∃ tickets, Vetted config next edge (opened ++ checks) tickets := by
  have tracks := vetted.tracks
  cases sends with
  | idle => exact ⟨tickets, vetted⟩
  | @admitted packet source cycles offers policy room =>
    have free := vetted.inUse_lt ordered creates few offers
    let readyAt := Clock.edge pipe.now cycles pipe.component.config.clockPeriod
    let ticket : Ticket := ⟨pipe.component.gate.slots.acquire.1, readyAt⟩
    refine ⟨tickets ++ [ticket], { vetted with
      fits := ?_
      tracks := { tracks.enter free packet readyAt with }
      booked := List.rel_append vetted.booked (.cons ?_ .nil)
      checks := ?_
      matured := tracks.matured_enter free vetted.matured packet readyAt }⟩
    · rw [vetted.capacity] at room
      simp only [admitting, SecureModule.admitting, Gate.withRequest, List.length_append,
        List.length_singleton]
      exact room
    · have aligned : pipe.now ≤ Clock.align pipe.now _ := Clock.le_align ordered.period
      have created := early packet rfl
      rw [Booked, SecureModuleConfig.checkTime, ← vetted.module, policy, Option.getD_some]
      exact Nat.add_le_add (Nat.le_trans created aligned) (Nat.le_refl _)
    · have entered := tracks.unready_enter free packet readyAt
      change List.Perm _ (((pipe.component.gate.withRequest packet).unready _).map _)
      rw [entered, List.map_append]
      exact (List.perm_append_comm).trans (vetted.checks.append_right _)
  | @refused packet source offers =>
    have free := vetted.inUse_lt ordered creates few offers
    have same := tracks.isReady_withoutRequest free
    refine ⟨tickets, { vetted with
      tracks := { tracks.turnAway free with }
      checks := ?_
      matured := ?_ }⟩
    · have unready : pipe.component.gate.withoutRequest.unready tickets =
          pipe.component.gate.unready tickets := by
        simp only [Gate.unready, same]
      change List.Perm _ ((pipe.component.gate.withoutRequest.unready tickets).map _)
      rw [unready]
      exact vetted.checks
    · intro ticket member ready
      exact vetted.matured ticket member ((same ticket.slot).symm.trans ready)

end Vetted

theorem assemble_vetted (config : BenchmarkConfig) (edge : Nat) :
    Vetted config (.assemble (SecureModule.fresh config.secureModule)
      (Recorded.blank (RequestGenerator.fresh config.workload))
      (Recorded.blank (MemoryModel.idle config.memory))) edge [] [] where
  module := rfl
  memory := rfl
  capacity := rfl
  fits := Nat.zero_le _
  tracks := Gate.tracks_empty _ _
  booked := .nil
  checks := .refl _
  matured := nofun
  serving := nofun
  responses := nofun
  received := nofun

end Pipeline

end GatedMemory
