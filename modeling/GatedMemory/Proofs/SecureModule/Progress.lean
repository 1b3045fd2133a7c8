import GatedMemory.Proofs.Clocked
import GatedMemory.Proofs.Completions
import GatedMemory.Proofs.SecureModule.Order

/-!
Progress of a simulated secure module. The work left is counted packet by packet. In every state
some turn is expected to lower it: an action of the clock, an action of the driver, or the end of a
check. Whatever happens before that turn comes either lowers the work too or leaves it expected.
-/

set_option autoImplicit false

namespace GatedMemory

/-- The longest time that a request waits for its check. -/
def SecureModuleConfig.longestCheck (config : SecureModuleConfig) : Nat :=
  (config.commonLatency + config.readLatency + config.writeLatency + 2) * config.clockPeriod

/-- The actions of the driver, those of the clock, and the end of a check. -/
inductive Turn where
  | forward
  | deliver
  | settle
  | serve
  | retry
  | issue
  | finish
  | check
deriving DecidableEq

namespace Pipeline

def checkEvent (slot : SlotId) : SimulationEvent SecureEvent :=
  .component (.checkOver slot)

/-- The work left: each request has to be admitted, checked, forwarded, served and delivered. -/
def work (pipe : Pipeline) (tickets : List Ticket) : Nat :=
  5 * (pipe.requester.peer.workload.numRequests - pipe.requester.peer.stats.issued) +
    3 * pipe.component.gate.requests.items.length +
    (pipe.component.gate.unready tickets).length +
    2 * pipe.memory.peer.serving.length + pipe.component.gate.responses.items.length

/-- The turn, once it comes at the tick or later, lowers the work, or ends the run. -/
inductive Expects (pipe : Pipeline) (tickets : List Ticket) : Turn → Nat → Prop where
  | deliver (queued : pipe.component.gate.responses.items ≠ []) : Expects pipe tickets .deliver 0
  | serve {due : Nat} {answer : Packet} {rest : List (Nat × Packet)}
    (empty : pipe.component.gate.responses.items = [])
    (serving : pipe.memory.peer.serving = (due, answer) :: rest) : Expects pipe tickets .serve due
  | check {ticket : Ticket} (waits : ticket ∈ pipe.component.gate.unready tickets) :
    Expects pipe tickets .check ticket.readyAt
  | retry (blocked : pipe.component.gate.towardMemory.blocked = true)
    (idle : pipe.memory.peer.serving = []) : Expects pipe tickets .retry 0
  | forward {head : QueuedRequest} {rest : List QueuedRequest}
    (unblocked : pipe.component.gate.towardMemory.blocked = false)
    (items : pipe.component.gate.requests.items = head :: rest)
    (ready : pipe.component.gate.slots.isReady head.slot = true)
    (idle : pipe.memory.peer.serving = []) : Expects pipe tickets .forward 0
  | settle (awaits : pipe.requester.peer.awaitsRetry = true)
    (empty : pipe.component.gate.requests.items = []) : Expects pipe tickets .settle 0
  | issue (free : pipe.requester.peer.awaitsRetry = false)
    (empty : pipe.component.gate.requests.items = [])
    (more : pipe.requester.peer.held.isSome = true ∨ pipe.requester.peer.canCreate = true) :
    Expects pipe tickets .issue 0
  | finish (finished : pipe.requester.peer.isFinished = true) : Expects pipe tickets .finish 0

/-- What is expected depends on the queues, the slots, the flag towards memory and the peers. -/
theorem Expects.congr {pipe next : Pipeline} {tickets : List Ticket} {turn : Turn} {due : Nat}
    (expects : pipe.Expects tickets turn due)
    (responses : next.component.gate.responses.items = pipe.component.gate.responses.items)
    (requests : next.component.gate.requests.items = pipe.component.gate.requests.items)
    (slots : next.component.gate.slots = pipe.component.gate.slots)
    (towardMemory : next.component.gate.towardMemory.blocked =
      pipe.component.gate.towardMemory.blocked)
    (serving : next.memory.peer.serving = pipe.memory.peer.serving)
    (requester : next.requester.peer = pipe.requester.peer) : next.Expects tickets turn due := by
  cases expects with
  | deliver queued => exact .deliver (responses ▸ queued)
  | serve empty first => exact .serve (responses.trans empty) (serving.trans first)
  | check waits => exact .check (Gate.unready_congr slots ▸ waits)
  | retry blocked idle => exact .retry (towardMemory.trans blocked) (serving.trans idle)
  | forward unblocked items ready idle =>
    exact .forward (towardMemory.trans unblocked) (requests.trans items) (slots ▸ ready)
      (serving.trans idle)
  | settle awaits empty => exact .settle (requester ▸ awaits) (requests.trans empty)
  | issue free empty more =>
    exact .issue (requester ▸ free) (requests.trans empty) (requester ▸ more)
  | finish finished => exact .finish (requester ▸ finished)

/-- A turn that came at the tick: it has lowered the work, or every turn that was expected still
is, this one only for later. -/
def Advances (now : Nat) (turn : Turn) (pipe : Pipeline) (tickets : List Ticket) (next : Pipeline)
    (later : List Ticket) : Prop :=
  next.work later < pipe.work tickets ∨ next.work later = pipe.work tickets ∧
    ∀ other due, pipe.Expects tickets other due →
      next.Expects later other due ∧ (other = turn → now < due)

/-- What holds between any two actions: `tickets` stand for the queued requests, and `others` for
the events to come apart from the ends of checks. -/
structure Steady (config : BenchmarkConfig) (driver : RepeatingEvent) (pipe : Pipeline)
    (tickets : List Ticket) (others : List (Nat × SimulationEvent SecureEvent)) : Prop where
  ordered : pipe.Ordered
  driven : pipe.component.driver = driver
  /-- The driver knows the number of its edge. -/
  names : ∀ id ∈ driver.pending, ∀ entry ∈ pipe.events.pending,
    entry.payload = .component .edge → entry.id = id
  configured : pipe.component.config = config.secureModule
  memory : pipe.memory.peer.config = config.memory
  workload : pipe.requester.peer.workload = config.workload
  requestCapacity :
    pipe.component.gate.requests.capacity = config.secureModule.requestCapacity
  responseCapacity :
    pipe.component.gate.responses.capacity = config.secureModule.responseCapacity
  timed : pipe.component.gate.Timed checkEvent pipe.events tickets others
  /-- Memory that blocks the way owes a retry to a request that may leave. -/
  blocked : pipe.component.gate.towardMemory.blocked = true → pipe.memory.peer.owesRetry = true ∧
    ∃ head ∈ pipe.component.gate.requests.items.head?,
      pipe.component.gate.slots.isReady head.slot = true
  /-- Memory waits exactly if it is owed a retry. -/
  owed : pipe.component.gate.towardMemory.owesRetry = pipe.memory.peer.responseBlocked
  /-- The requester takes every response. -/
  unblocked : pipe.component.gate.towardRequester.blocked = false
  /-- The requester waits exactly if it is owed a retry. -/
  awaits : pipe.component.gate.towardRequester.owesRetry = pipe.requester.peer.awaitsRetry
  held : pipe.requester.peer.awaitsRetry = true → pipe.requester.peer.held.isSome = true
  served : ∀ entry ∈ pipe.memory.peer.serving,
    entry.1 ≤ pipe.now + config.memory.accessLatency
  checked : ∀ ticket ∈ tickets, ticket.readyAt ≤ pipe.now + config.secureModule.longestCheck

/-- While memory waits, a response is queued; so it is between any two events. -/
def Backed (pipe : Pipeline) : Prop :=
  pipe.memory.peer.responseBlocked = true → pipe.component.gate.responses.items ≠ []

namespace Steady

variable {config : BenchmarkConfig} {driver : RepeatingEvent} {pipe : Pipeline}
  {tickets : List Ticket} {others : List (Nat × SimulationEvent SecureEvent)}
  (steady : Steady config driver pipe tickets others)
  (workable : config.Workable)
include steady workable

theorem forward {outcome : Gate × RecordedMemory}
    (forwards : SecureModule.Forwards pipe.component.gate pipe.memory pipe.now outcome) :
    ∃ later, Steady config driver (pipe.withMemory outcome) later others ∧
      Advances pipe.now .forward pipe tickets (pipe.withMemory outcome) later := by
  have ordered := steady.ordered.forward forwards
  cases forwards with
  | idle unable =>
    refine ⟨tickets, { steady with ordered := ordered }, .inr ⟨rfl, ?_⟩⟩
    intro other due expects
    refine ⟨expects, fun same => ?_⟩
    subst same
    cases expects with
    | forward unblocked items ready =>
      have first := Gate.readyHead?_eq_some_iff.2 ⟨congrArg List.head? items, ready⟩
      rcases unable with blocked | none
      · rw [unblocked] at blocked
        cases blocked
      · rw [none] at first
        cases first
  | @taken head rest answer unblocked items ready room answered =>
    refine ⟨tickets.tail, { steady with
      ordered := ordered
      timed := steady.timed.depart items ready
      blocked := ?_, served := ?_, checked := ?_ }, .inl ?_⟩
    · intro blocked
      have still : pipe.component.gate.towardMemory.blocked = true := blocked
      rw [unblocked] at still
      cases still
    · intro entry member
      rcases List.mem_append.1 member with old | new
      · exact steady.served entry old
      · rw [List.mem_singleton.1 new, steady.memory]
        exact Nat.le_refl _
    · exact fun ticket member => steady.checked ticket (List.mem_of_mem_tail member)
    · have unready := steady.timed.tracks.unready_depart items ready
      simp only [work, withMemory, unready]
      simp only [Gate.dropHead, RecordedMemory.accepting, Recorded.note, items, List.length_append,
        List.length_cons, List.length_nil]
      omega
  | @refused head rest unblocked items ready full =>
    refine ⟨tickets, { steady with
      ordered := ordered
      timed := steady.timed.stay items head.packet
      blocked := fun _ => ⟨rfl, head, rfl, ready⟩ }, .inr ⟨?_, ?_⟩⟩
    · simp only [work, withMemory, Gate.keepHead, Gate.unready, RecordedMemory.refusing,
        Recorded.note, items]
    · intro other due expects
      cases expects with
      | deliver queued => exact ⟨.deliver queued, by simp⟩
      | serve empty serving => exact ⟨.serve empty serving, by simp⟩
      | check waits => exact ⟨.check waits, by simp⟩
      | retry blocked =>
        rw [unblocked] at blocked
        cases blocked
      | forward _ _ _ idle =>
        have room : pipe.memory.peer.hasRoom = true :=
          RecordedMemory.hasRoom_of_idle (steady.memory ▸ workable.outstanding) idle
        rw [full] at room
        cases room
      | settle _ empty =>
        rw [items] at empty
        cases empty
      | issue _ empty =>
        rw [items] at empty
        cases empty
      | finish finished => exact ⟨.finish finished, by simp⟩

omit workable in
theorem deliver {outcome : Gate × RecordedRequester}
    (delivers : SecureModule.Delivers pipe.component.gate pipe.requester pipe.now outcome) :
    Steady config driver (pipe.withRequester outcome) tickets others ∧
      Advances pipe.now .deliver pipe tickets (pipe.withRequester outcome) tickets := by
  have ordered := steady.ordered.deliver delivers
  cases delivers with
  | idle unable =>
    refine ⟨{ steady with ordered := ordered }, .inr ⟨rfl, ?_⟩⟩
    intro other due expects
    refine ⟨expects, fun same => ?_⟩
    subst same
    cases expects with
    | deliver queued =>
      rcases unable with blocked | empty
      · rw [steady.unblocked] at blocked
        cases blocked
      · exact absurd empty queued
  | @taken head rest _ items =>
    refine ⟨{ steady with ordered := ordered, timed := steady.timed.congr rfl rfl rfl }, .inl ?_⟩
    simp only [work, withRequester, RecordedRequester.receiving, Recorded.note,
      RequestGenerator.offer, TrafficStats.addResponse, Gate.unready, items, List.length_cons]
    omega

omit workable in
/-- Nothing is owed to the requester any more; if it was, it can send at once. -/
theorem settleRequestRetry :
    Steady config driver (SecureModule.settleRequestRetry pipe) tickets others ∧
    work (SecureModule.settleRequestRetry pipe) tickets = pipe.work tickets ∧
    ∀ other due, pipe.Expects tickets other due →
      other = .settle ∧ Expects (SecureModule.settleRequestRetry pipe) tickets .issue 0 ∨
      other ≠ .settle ∧ Expects (SecureModule.settleRequestRetry pipe) tickets other due := by
  have ordered := steady.ordered.settleRequestRetry
  cases owed : pipe.component.gate.towardRequester.owesRetry with
  | false =>
    rw [SecureModule.settleRequestRetry_of_idle owed] at ordered ⊢
    refine ⟨steady, rfl, fun other due expects => .inr ⟨?_, expects⟩⟩
    rintro rfl
    cases expects with
    | settle awaits =>
      rw [← steady.awaits, owed] at awaits
      cases awaits
  | true =>
    rw [SecureModule.settleRequestRetry_of_owed owed] at ordered ⊢
    refine ⟨{ steady with
      ordered := ordered, timed := steady.timed.congr rfl rfl rfl, awaits := rfl, held := nofun },
      rfl, ?_⟩
    have awaits : pipe.requester.peer.awaitsRetry = true := steady.awaits ▸ owed
    intro other due expects
    cases expects with
    | deliver queued => exact .inr ⟨nofun, .deliver queued⟩
    | serve empty serving => exact .inr ⟨nofun, .serve empty serving⟩
    | check waits => exact .inr ⟨nofun, .check waits⟩
    | retry blocked idle => exact .inr ⟨nofun, .retry blocked idle⟩
    | forward unblocked items ready idle =>
      exact .inr ⟨nofun, .forward unblocked items ready idle⟩
    | settle _ empty => exact .inl ⟨rfl, .issue rfl empty (.inl (steady.held awaits))⟩
    | issue free =>
      rw [awaits] at free
      cases free
    | finish finished => exact .inr ⟨nofun, .finish finished⟩

omit workable in
theorem settleResponseRetry :
    Steady config driver (SecureModule.settleResponseRetry pipe) tickets others ∧
    work (SecureModule.settleResponseRetry pipe) tickets = pipe.work tickets ∧
    Backed (SecureModule.settleResponseRetry pipe) ∧
    ∀ other due, pipe.Expects tickets other due →
      Expects (SecureModule.settleResponseRetry pipe) tickets other due := by
  have ordered := steady.ordered.settleResponseRetry
  cases owed : pipe.component.gate.towardMemory.owesRetry with
  | false =>
    rw [SecureModule.settleResponseRetry_of_idle owed] at ordered ⊢
    refine ⟨steady, rfl, ?_, fun other due expects => expects⟩
    intro blocked
    rw [← steady.owed, owed] at blocked
    cases blocked
  | true =>
    rw [SecureModule.settleResponseRetry_of_owed owed] at ordered ⊢
    refine ⟨{ steady with
      ordered := ordered, timed := steady.timed.congr rfl rfl rfl, owed := rfl }, rfl, nofun, ?_⟩
    exact fun other due expects => expects.congr rfl rfl rfl rfl rfl rfl

theorem serve (backed : pipe.Backed) {next : Pipeline} (serves : pipe.Serves next) :
    Steady config driver next tickets others ∧ next.Backed ∧
      Advances pipe.now .serve pipe tickets next tickets := by
  have ordered := steady.ordered.serve serves
  cases serves with
  | idle quiet =>
    refine ⟨steady, backed, .inr ⟨rfl, ?_⟩⟩
    intro other due expects
    refine ⟨expects, fun same => ?_⟩
    subst same
    cases expects with
    | serve empty serving =>
      rcases quiet with blocked | later
      · exact absurd empty (backed blocked)
      · rw [serving] at later
        exact later _ rfl
  | @admitted due answer rest unblocked serving ready room =>
    refine ⟨{ steady with
      ordered := ordered, timed := steady.timed.congr rfl rfl rfl, owed := unblocked.symm
      served := ?_ }, ?_, .inl ?_⟩
    · intro entry member
      apply steady.served
      rw [serving]
      exact List.mem_cons_of_mem _ member
    · intro blocked
      have still : pipe.memory.peer.responseBlocked = true := blocked
      rw [unblocked] at still
      cases still
    · simp only [work, withMemory, Gate.withResponse, Gate.unready, RecordedMemory.withServing,
        serving, List.length_append, List.length_cons, List.length_nil]
      omega
  | @refused due answer rest unblocked serving ready full =>
    have queued : pipe.component.gate.responses.items ≠ [] := by
      intro empty
      rw [empty, steady.responseCapacity] at full
      exact absurd workable.responses (Nat.not_lt.2 full)
    refine ⟨{ steady with
      ordered := ordered, timed := steady.timed.congr rfl rfl rfl, owed := rfl, served := ?_ },
      fun _ => queued, .inr ⟨?_, ?_⟩⟩
    · intro entry member
      rcases List.mem_cons.1 member with rfl | member
      · exact Nat.le_add_right _ _
      · apply steady.served
        rw [serving]
        exact List.mem_cons_of_mem _ member
    · simp only [work, withMemory, Gate.withoutResponse, Gate.unready, RecordedMemory.withServing,
        RecordedMemory.puttingBack, MemoryModel.putBack, serving, List.length_cons]
    · intro other due expects
      cases expects with
      | deliver queued => exact ⟨.deliver queued, by simp⟩
      | serve empty => exact absurd empty queued
      | check waits => exact ⟨.check waits, by simp⟩
      | retry _ idle =>
        rw [serving] at idle
        cases idle
      | forward _ _ _ idle =>
        rw [serving] at idle
        cases idle
      | settle awaits empty => exact ⟨.settle awaits empty, by simp⟩
      | issue free empty more => exact ⟨.issue free empty more, by simp⟩
      | finish finished => exact ⟨.finish finished, by simp⟩

theorem retry (backed : pipe.Backed) {next : Pipeline} (retries : pipe.Retries next) :
    ∃ later, Steady config driver next later others ∧ next.Backed ∧
      Advances pipe.now .retry pipe tickets next later := by
  cases retries with
  | idle quiet =>
    refine ⟨tickets, steady, backed, .inr ⟨rfl, ?_⟩⟩
    intro other due expects
    refine ⟨expects, fun same => ?_⟩
    subst same
    cases expects with
    | retry blocked idle =>
      have owes := (steady.blocked blocked).1
      have room : pipe.memory.peer.hasRoom = true :=
        RecordedMemory.hasRoom_of_idle (steady.memory ▸ workable.outstanding) idle
      rcases quiet with none | full
      · rw [owes] at none
        cases none
      · rw [room] at full
        cases full
  | @passed outcome owed room forwards =>
    let reopened := pipe.withMemory (pipe.component.gate.reopened, pipe.memory.settling)
    have open' : Steady config driver reopened tickets others := { steady with
      ordered := { steady.ordered with }
      timed := steady.timed.congr rfl rfl rfl
      blocked := nofun }
    obtain ⟨later, kept, advances⟩ := open'.forward workable forwards
    refine ⟨later, kept, ?_, ?_⟩
    · cases forwards <;> exact backed
    rcases advances with less | ⟨same, expects⟩
    · exact .inl less
    · refine .inr ⟨same, fun other due expected => ?_⟩
      cases expected with
      | deliver queued => exact ⟨(expects _ _ (.deliver queued)).1, by simp⟩
      | serve empty serving => exact ⟨(expects _ _ (.serve empty serving)).1, by simp⟩
      | check waits => exact ⟨(expects _ _ (.check waits)).1, by simp⟩
      | retry blocked idle =>
        obtain ⟨-, head, first, ready⟩ := steady.blocked blocked
        obtain ⟨rest, items⟩ := List.head?_eq_some_iff.1 first
        have forward : reopened.Expects tickets .forward 0 := .forward rfl items ready idle
        exact absurd ((expects _ _ forward).2 rfl) (Nat.not_lt_zero _)
      | forward unblocked items ready idle =>
        exact ⟨(expects _ _ (.forward rfl items ready idle)).1, by simp⟩
      | settle awaits empty => exact ⟨(expects _ _ (.settle awaits empty)).1, by simp⟩
      | issue free empty more => exact ⟨(expects _ _ (.issue free empty more)).1, by simp⟩
      | finish finished => exact ⟨(expects _ _ (.finish finished)).1, by simp⟩

omit steady workable in
theorem edge_le_longestCheck {settings : SecureModuleConfig} {kind : AccessKind} {cycles : Nat}
    (period : 0 < settings.clockPeriod) (policy : settings.holdCycles kind = some cycles)
    (now : Nat) : Clock.edge now cycles settings.clockPeriod ≤ now + settings.longestCheck := by
  have below : Clock.edge now cycles settings.clockPeriod <
      now + (cycles + 1) * settings.clockPeriod := Clock.edge_lt period
  have few : cycles + 1 ≤
      settings.commonLatency + settings.readLatency + settings.writeLatency + 2 := by
    cases kind <;>
      simp only [SecureModuleConfig.holdCycles, Option.some.injEq, reduceCtorEq] at policy
    · omega
    · omega
  have scaled := Nat.mul_le_mul_right settings.clockPeriod few
  unfold SecureModuleConfig.longestCheck
  omega

theorem issue (backed : pipe.Backed) {next : Pipeline} (issues : pipe.Issues (none, next)) :
    ∃ later, Steady config driver next later others ∧ next.Backed ∧
      Advances pipe.now .issue pipe tickets next later := by
  have ordered := (steady.ordered.issue issues).2
  have fits : pipe.component.gate.requests.capacity + 1 < 2 ^ 32 := by
    rw [steady.requestCapacity]
    exact workable.fits
  cases issues with
  | idle quiet =>
    refine ⟨tickets, steady, backed, .inr ⟨rfl, ?_⟩⟩
    intro other due expects
    refine ⟨expects, fun same => ?_⟩
    subst same
    cases expects with
    | issue free _ more =>
      rcases quiet with awaits | ⟨empty, full⟩
      · rw [free] at awaits
        cases awaits
      · rcases more with held | more
        · rw [empty] at held
          cases held
        · rw [full] at more
          cases more
  | @admitted packet source cycles offers policy room =>
    obtain ⟨held, free, stats, workload⟩ := offers.after
    have future : pipe.events.now ≤ Clock.edge pipe.now cycles pipe.component.config.clockPeriod :=
      Clock.le_edge steady.ordered.period
    have slots := steady.timed.inUse_lt fits
    refine ⟨_, { steady with
      ordered := ordered
      names := ?_
      workload := workload.trans steady.workload
      timed := steady.timed.enter fits room future packet
      blocked := ?_
      awaits := (steady.awaits.trans offers.free).trans free.symm
      held := fun awaits => absurd (free.symm.trans awaits) Bool.false_ne_true
      checked := ?_ }, backed, .inl ?_⟩
    · intro id pending entry member edge
      rcases EventQueue.mem_scheduled.1 member with rfl | member
      · cases edge
      · exact steady.names id pending entry member edge
    · intro blocked
      obtain ⟨owes, head, first, ready⟩ := steady.blocked blocked
      obtain ⟨rest, items⟩ := List.head?_eq_some_iff.1 first
      obtain ⟨ticket, others, rfl, slot⟩ := steady.timed.tracks.head_ticket items
      refine ⟨owes, head, ?_, ?_⟩
      · simp only [admitting, SecureModule.admitting, Gate.withRequest, items, List.cons_append,
          List.head?_cons]
        rfl
      · simp only [admitting, SecureModule.admitting, Gate.withRequest]
        rw [← slot, steady.timed.tracks.isReady_acquire slots List.mem_cons_self, slot]
        exact ready
    · intro ticket member
      rcases List.mem_append.1 member with old | new
      · exact steady.checked ticket old
      · rw [List.mem_singleton.1 new, steady.configured]
        rw [steady.configured] at policy
        exact edge_le_longestCheck workable.period policy pipe.now
    · have unready := steady.timed.tracks.unready_enter slots packet
        (Clock.edge pipe.now cycles pipe.component.config.clockPeriod)
      have created := offers.created_eq steady.ordered.regular
      have bounded := offers.created_le steady.ordered.regular
      simp only [work, admitting, SecureModule.admitting, unready]
      simp only [Gate.withRequest, RequestGenerator.accepted, stats, workload, List.length_append,
        List.length_singleton]
      omega
  | @refused packet source offers full =>
    obtain ⟨held, free, stats, workload⟩ := offers.after
    have slots := steady.timed.inUse_lt fits
    have ready := steady.timed.tracks.isReady_withoutRequest slots
    have queued : pipe.component.gate.requests.items ≠ [] := by
      intro empty
      rw [empty, steady.requestCapacity] at full
      exact absurd workable.requests (Nat.not_lt.2 full)
    refine ⟨tickets, { steady with
      ordered := ordered
      workload := workload.trans steady.workload
      timed := steady.timed.turnAway fits
      blocked := ?_
      awaits := rfl
      held := fun _ => rfl }, backed, .inr ⟨?_, ?_⟩⟩
    · intro blocked
      obtain ⟨owes, head, first, ended⟩ := steady.blocked blocked
      refine ⟨owes, head, first, ?_⟩
      simp only [turningAway, SecureModule.turningAway, ready]
      exact ended
    · simp only [work, turningAway, SecureModule.turningAway, Gate.unready, ready,
        RequestGenerator.rejected, stats, workload]
      rfl
    · intro other due expects
      cases expects with
      | deliver queued => exact ⟨.deliver queued, by simp⟩
      | serve empty serving => exact ⟨.serve empty serving, by simp⟩
      | check waits =>
        refine ⟨.check ?_, by simp⟩
        simp only [turningAway, SecureModule.turningAway, Gate.unready, ready]
        exact waits
      | retry blocked idle => exact ⟨.retry blocked idle, by simp⟩
      | forward unblocked items ended idle =>
        refine ⟨.forward unblocked items ?_ idle, by simp⟩
        simp only [turningAway, SecureModule.turningAway, ready]
        exact ended
      | settle _ empty => exact absurd empty queued
      | issue _ empty => exact absurd empty queued
      | finish finished =>
        refine ⟨.finish ?_, by simp⟩
        simp only [turningAway, RequestGenerator.rejected, RequestGenerator.isFinished, stats,
          workload]
        exact finished

section Firing

omit workable

variable {entry : EventEntry (SimulationEvent SecureEvent)}
  {rest : List (EventEntry (SimulationEvent SecureEvent))}
  (pending : pipe.events.pending = entry :: rest)
include pending

/-- Time has moved on to an event, which is no longer to come; at most, a check is over with it. -/
theorem fired {slots : SlotTable} {left : List (Nat × SimulationEvent SecureEvent)}
    (timed : Gate.Timed checkEvent { pipe.component.gate with slots }
      (pipe.events.after entry rest) tickets left)
    (ready : ∀ id, pipe.component.gate.slots.isReady id = true → slots.isReady id = true) :
    Steady config driver
      { pipe with
        component := { pipe.component with gate := { pipe.component.gate with slots } }
        events := pipe.events.after entry rest } tickets left := by
  have passed := steady.timed.awaits.now_le pending
  refine { steady with
    ordered := { steady.ordered with }, timed := timed, names := ?_, blocked := ?_, served := ?_
    checked := ?_ }
  · intro id known other member
    apply steady.names id known other
    rw [pending]
    exact List.mem_cons_of_mem _ member
  · intro blocked
    obtain ⟨owes, head, first, ended⟩ := steady.blocked blocked
    exact ⟨owes, head, first, ready head.slot ended⟩
  · exact fun answer member => Nat.le_trans (steady.served answer member)
      (Nat.add_le_add_right passed _)
  · exact fun ticket member => Nat.le_trans (steady.checked ticket member)
      (Nat.add_le_add_right passed _)

theorem check {ticket : Ticket} (waits : ticket ∈ pipe.component.gate.unready tickets)
    (completes : ticket.completion checkEvent = (entry.tick, entry.payload)) :
    Steady config driver (pipe.checkedOff ticket.slot (pipe.events.after entry rest)) tickets
      others ∧
    (pipe.checkedOff ticket.slot (pipe.events.after entry rest)).work tickets <
      pipe.work tickets := by
  have tracks := steady.timed.tracks
  refine ⟨steady.fired pending (steady.timed.finish pending waits completes) ?_, ?_⟩
  · intro id ended
    by_cases same : id = ticket.slot
    · rw [same]
      exact tracks.isReady_finish_self waits
    · exact (Gate.Tracks.isReady_finish_of_ne same).trans ended
  · have length := (tracks.unready_finish waits).length_eq
    rw [List.length_cons] at length
    have requests : (pipe.component.gate.finishWait ticket.slot).2.requests =
      pipe.component.gate.requests := rfl
    have responses : (pipe.component.gate.finishWait ticket.slot).2.responses =
      pipe.component.gate.responses := rfl
    simp only [work, checkedOff, requests, responses, length]
    omega

end Firing

omit workable in
/-- Between the peers are the packets that the module has queued. -/
theorem conforms : Rig.Conforms config pipe (pipe.component.gate.responses.items.length +
    pipe.component.gate.requests.items.length) where
  regular := steady.ordered.regular
  workload := steady.workload
  memory := steady.memory
  count := by
    have length := congrArg List.length steady.ordered.order
    have issued := steady.ordered.regular.issued
    simp only [journey, List.length_map, List.length_append, List.length_range] at length
    rw [steady.ordered.answered]
    omega
  served := steady.served

/-- While the run goes on, some turn is expected, and not too late. -/
theorem exists_expects : ∃ turn due, pipe.Expects tickets turn due ∧
    due ≤ pipe.now + config.memory.accessLatency + config.secureModule.longestCheck := by
  by_cases queued : pipe.component.gate.responses.items = []
  case neg => exact ⟨_, _, .deliver queued, Nat.zero_le _⟩
  cases serving : pipe.memory.peer.serving with
  | cons entry rest =>
    obtain ⟨due, answer⟩ := entry
    have soon := steady.served (due, answer) (serving ▸ List.mem_cons_self)
    exact ⟨_, _, .serve queued serving, Nat.le_trans soon (Nat.le_add_right _ _)⟩
  | nil =>
    cases items : pipe.component.gate.requests.items with
    | cons head rest =>
      obtain ⟨ticket, later, rfl, slot⟩ := steady.timed.tracks.head_ticket items
      cases ready : pipe.component.gate.slots.isReady head.slot with
      | false =>
        have waits : ticket ∈ pipe.component.gate.unready (ticket :: later) :=
          Gate.mem_unready.2 ⟨List.mem_cons_self, slot ▸ ready⟩
        have soon := steady.checked ticket List.mem_cons_self
        refine ⟨_, _, .check waits, ?_⟩
        omega
      | true =>
        cases blocked : pipe.component.gate.towardMemory.blocked with
        | true => exact ⟨_, _, .retry blocked serving, Nat.zero_le _⟩
        | false => exact ⟨_, _, .forward blocked items ready serving, Nat.zero_le _⟩
    | nil =>
      cases finished : pipe.requester.peer.isFinished with
      | true => exact ⟨_, _, .finish finished, Nat.zero_le _⟩
      | false =>
        cases awaits : pipe.requester.peer.awaitsRetry with
        | true => exact ⟨_, _, .settle awaits items, Nat.zero_le _⟩
        | false =>
          refine ⟨_, _, .issue awaits items ?_, Nat.zero_le _⟩
          have conforms := steady.conforms
          rw [queued, items] at conforms
          exact conforms.ready workable.window serving finished

end Steady

end Pipeline

end GatedMemory
