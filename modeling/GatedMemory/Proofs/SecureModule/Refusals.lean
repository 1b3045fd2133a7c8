import GatedMemory.Proofs.Refusals
import GatedMemory.Proofs.SecureModule.Punctual

set_option autoImplicit false

namespace GatedMemory

namespace Gate

variable {gate : Gate} {outstanding : Option Packet}

/-- The queue is within its bounds, the markers follow it, and the request that memory has turned
down is first in line, with its check over. -/
structure Retains (gate : Gate) (outstanding : Option Packet) : Prop where
  fits : gate.requests.capacity + 1 < 2 ^ 32
  bounded : gate.requests.items.length ≤ gate.requests.capacity
  tracked : ∃ tickets, gate.Tracks tickets
  first : ∀ packet ∈ outstanding, ∃ head rest, gate.requests.items = head :: rest ∧
    head.packet = packet ∧ gate.slots.isReady head.slot = true

theorem retains_empty {requestCapacity : Nat} (fits : requestCapacity + 1 < 2 ^ 32)
    (responseCapacity : Nat) : (Gate.empty requestCapacity responseCapacity).Retains none where
  fits := fits
  bounded := Nat.zero_le _
  tracked := ⟨[], tracks_empty _ _⟩
  first := nofun

namespace Retains

variable (retains : gate.Retains outstanding)
include retains

theorem congr {next : Gate} (requests : next.requests = gate.requests)
    (slots : next.slots = gate.slots) : next.Retains outstanding where
  fits := requests ▸ retains.fits
  bounded := requests ▸ retains.bounded
  tracked := by
    obtain ⟨tickets, tracks⟩ := retains.tracked
    exact ⟨tickets, tracks.congr slots (by rw [requests])⟩
  first := by
    rw [requests, slots]
    exact retains.first

theorem inUse_lt : gate.slots.inUse < 2 ^ 32 := by
  obtain ⟨tickets, tracks⟩ := retains.tracked
  have length := tracks.length_eq
  have bounded := retains.bounded
  have fits := retains.fits
  rw [tracks.count]
  omega

theorem enter (room : gate.requests.items.length < gate.requests.capacity) (packet : Packet) :
    (gate.withRequest packet).Retains outstanding where
  fits := retains.fits
  bounded := by
    simp only [withRequest, List.length_append, List.length_singleton]
    exact room
  tracked := by
    obtain ⟨tickets, tracks⟩ := retains.tracked
    exact ⟨_, tracks.enter retains.inUse_lt packet 0⟩
  first := by
    intro other member
    obtain ⟨head, rest, items, same, ready⟩ := retains.first other member
    obtain ⟨_, tracks⟩ := retains.tracked
    obtain ⟨ticket, _, rfl, slot⟩ := tracks.head_ticket items
    refine ⟨head, rest ++ [⟨packet, gate.slots.acquire.1⟩], ?_, same, ?_⟩
    · simp only [withRequest, items, List.cons_append]
    · rw [← slot] at ready ⊢
      exact (tracks.isReady_acquire retains.inUse_lt List.mem_cons_self).trans ready

theorem turnAway : gate.withoutRequest.Retains outstanding where
  fits := retains.fits
  bounded := retains.bounded
  tracked := by
    obtain ⟨tickets, tracks⟩ := retains.tracked
    exact ⟨tickets, tracks.turnAway retains.inUse_lt⟩
  first := by
    intro packet member
    obtain ⟨head, rest, items, same, ready⟩ := retains.first packet member
    obtain ⟨_, tracks⟩ := retains.tracked
    exact ⟨head, rest, items, same,
      (tracks.isReady_withoutRequest retains.inUse_lt _).trans ready⟩

theorem finishWait (slot : SlotId) : (gate.finishWait slot).2.Retains outstanding where
  fits := retains.fits
  bounded := retains.bounded
  tracked := by
    obtain ⟨tickets, tracks⟩ := retains.tracked
    exact ⟨tickets, tracks.finishWait slot⟩
  first := by
    intro packet member
    obtain ⟨head, rest, items, same, ready⟩ := retains.first packet member
    exact ⟨head, rest, items, same, SlotTable.isReady_finish ready⟩

variable {head : QueuedRequest} {rest : List QueuedRequest}
  (items : gate.requests.items = head :: rest)
include items

theorem depart : (gate.dropHead head rest).Retains none where
  fits := retains.fits
  bounded := by
    have bounded := retains.bounded
    rw [items] at bounded
    exact Nat.le_of_succ_le bounded
  tracked := by
    obtain ⟨tickets, tracks⟩ := retains.tracked
    exact ⟨tickets.tail, tracks.depart items⟩
  first := nofun

theorem stay (ready : gate.slots.isReady head.slot = true) :
    (gate.keepHead head rest).Retains (some head.packet) where
  fits := retains.fits
  bounded := by
    have bounded := retains.bounded
    rw [items] at bounded
    exact bounded
  tracked := by
    obtain ⟨tickets, tracks⟩ := retains.tracked
    exact ⟨tickets, tracks.congr rfl (by rw [items]; rfl)⟩
  first := by
    rintro _ ⟨⟩
    exact ⟨head, rest, rfl, rfl, ready⟩

end Retains

end Gate

namespace Pipeline

variable {config : BenchmarkConfig} {pipe : Pipeline} {outstanding : Option Packet}

theorem forwarded_accepting {gate : Gate} {memory : RecordedMemory} {packet answer : Packet}
    {now : Nat} (responses : gate.responses.items = pipe.component.gate.responses.items)
    (serving : memory.peer.serving = pipe.memory.peer.serving) :
    (pipe.withMemory (gate, memory.accepting packet answer now)).forwarded =
      pipe.forwarded + 1 := by
  simp only [forwarded, sent, withMemory, RecordedMemory.accepting, Recorded.note, responses,
    serving, List.length_append, List.length_singleton]
  omega

/-- The module holds the request that memory has turned down and not taken since, and while there is
one it waits and memory owes it a retry. -/
structure Tallied (config : BenchmarkConfig) (pipe : Pipeline) (outstanding : Option Packet) : Prop
    extends Ordered pipe where
  workload : pipe.requester.peer.workload = config.workload
  retains : pipe.component.gate.Retains outstanding
  refusals : pipe.memory.Refusals pipe.forwarded outstanding
  owed : pipe.memory.peer.owesRetry = outstanding.isSome
  waits : pipe.component.gate.towardMemory.blocked = outstanding.isSome

namespace Tallied

variable (tallied : Tallied config pipe outstanding)
include tallied

/-- While the module does not wait, memory has taken all that it has turned down. -/
theorem none_of_unblocked (unblocked : pipe.component.gate.towardMemory.blocked = false) :
    outstanding = none := by
  rw [tallied.waits, Option.isSome_eq_false_iff] at unblocked
  exact Option.isNone_iff_eq_none.1 unblocked

theorem forward {outcome : Gate × RecordedMemory}
    (forwards : SecureModule.Forwards pipe.component.gate pipe.memory pipe.now outcome) :
    ∃ left, Tallied config (pipe.withMemory outcome) left := by
  have ordered := tallied.toOrdered.forward forwards
  cases forwards with
  | idle => exact ⟨outstanding, { tallied with toOrdered := ordered }⟩
  | @taken head rest answer unblocked items =>
    obtain rfl := tallied.none_of_unblocked unblocked
    have forwarded : (pipe.withMemory (pipe.component.gate.dropHead head rest,
        pipe.memory.accepting head.packet answer pipe.now)).forwarded = pipe.forwarded + 1 :=
      forwarded_accepting rfl rfl
    exact ⟨none, { tallied with
      toOrdered := ordered
      retains := tallied.retains.depart items
      refusals := forwarded ▸ tallied.refusals.accept }⟩
  | @refused head rest unblocked items ready =>
    -- it is not turned down a second time, for it would have been kept back
    have first := tallied.none_of_unblocked unblocked
    exact ⟨some head.packet, { tallied with
      toOrdered := ordered
      retains := tallied.retains.stay items ready
      refusals := tallied.refusals.refuse first (tallied.head_request items)
      owed := rfl
      waits := rfl }⟩

theorem deliver {outcome : Gate × RecordedRequester}
    (delivers : SecureModule.Delivers pipe.component.gate pipe.requester pipe.now outcome) :
    Tallied config (pipe.withRequester outcome) outstanding := by
  have ordered := tallied.toOrdered.deliver delivers
  cases delivers with
  | idle => exact { tallied with toOrdered := ordered }
  | @taken head rest _ items =>
    have sent : pipe.requester.peer.stats.responses + 1 + rest.length = pipe.sent := by
      rw [sent_eq_add, items, List.length_cons]
      omega
    have refusals := tallied.refusals
    rw [forwarded_eq_add, ← sent] at refusals
    exact { tallied with
      toOrdered := ordered
      retains := tallied.retains.congr rfl rfl
      refusals := refusals }

theorem settleRequestRetry :
    Tallied config (SecureModule.settleRequestRetry pipe) outstanding := by
  have ordered := tallied.toOrdered.settleRequestRetry
  cases owed : pipe.component.gate.towardRequester.owesRetry with
  | false =>
    rw [SecureModule.settleRequestRetry_of_idle owed]
    exact tallied
  | true =>
    rw [SecureModule.settleRequestRetry_of_owed owed] at ordered ⊢
    exact { tallied with
      toOrdered := ordered
      retains := tallied.retains.congr rfl rfl
      refusals := tallied.refusals }

theorem settleResponseRetry :
    Tallied config (SecureModule.settleResponseRetry pipe) outstanding := by
  have ordered := tallied.toOrdered.settleResponseRetry
  cases owed : pipe.component.gate.towardMemory.owesRetry with
  | false =>
    rw [SecureModule.settleResponseRetry_of_idle owed]
    exact tallied
  | true =>
    rw [SecureModule.settleResponseRetry_of_owed owed] at ordered ⊢
    have refused : pipe.memory.resuming.refused = pipe.memory.refused :=
      (Recorded.refused_note _ _ _).trans (List.append_nil _)
    exact { tallied with
      toOrdered := ordered
      retains := tallied.retains.congr rfl rfl
      refusals := tallied.refusals.congr rfl refused }

theorem edgeWork : ∃ left, Tallied config (SecureModule.edgeWork pipe) left := by
  have fired : Tallied config (SecureModule.edgeFired pipe) outstanding :=
    { tallied with toOrdered := { tallied.toOrdered with } }
  obtain ⟨left, sent⟩ := fired.forward (SecureModule.sendRequest_forwards fired.plain)
  rw [← SecureModule.drainRequest_eq] at sent
  have delivered := sent.deliver SecureModule.sendResponse_delivers
  rw [← SecureModule.drainResponse_eq] at delivered
  exact ⟨left, delivered.settleRequestRetry.settleResponseRetry⟩

theorem serve {next : Pipeline} (serves : pipe.Serves next) :
    Tallied config next outstanding := by
  have ordered := tallied.toOrdered.serve serves
  cases serves with
  | idle => exact tallied
  | @admitted due answer rest _ serving =>
    have forwarded : (pipe.withMemory (pipe.component.gate.withResponse answer,
        pipe.memory.withServing rest)).forwarded = pipe.forwarded := by
      simp only [forwarded, sent, withMemory, Gate.withResponse, RecordedMemory.withServing,
        serving, List.length_append, List.length_cons, List.length_nil]
      omega
    exact { tallied with
      toOrdered := ordered
      retains := tallied.retains.congr rfl rfl
      refusals := forwarded ▸ tallied.refusals.congr rfl rfl }
  | @refused due answer rest _ serving =>
    have forwarded : (pipe.withMemory (pipe.component.gate.withoutResponse,
        (pipe.memory.withServing rest).puttingBack answer pipe.now)).forwarded =
          pipe.forwarded := by
      simp only [forwarded, sent, withMemory, Gate.withoutResponse, RecordedMemory.withServing,
        RecordedMemory.puttingBack, MemoryModel.putBack, serving, List.length_cons]
    exact { tallied with
      toOrdered := ordered
      retains := tallied.retains.congr rfl rfl
      refusals := forwarded ▸ tallied.refusals.congr rfl rfl }

/-- The request that memory turned down last is offered again when memory asks for it, and memory
takes it. -/
theorem passes (owed : pipe.memory.peer.owesRetry = true)
    (room : pipe.memory.peer.hasRoom = true) {outcome : Gate × RecordedMemory}
    (forwards : SecureModule.Forwards pipe.component.gate.reopened pipe.memory.settling pipe.now
      outcome) : ∃ head rest answer, pipe.component.gate.requests.items = head :: rest ∧
      outstanding = some head.packet ∧
      outcome = (pipe.component.gate.reopened.dropHead head rest,
        pipe.memory.settling.accepting head.packet answer pipe.now) := by
  obtain ⟨packet, last⟩ := Option.isSome_iff_exists.1 (tallied.owed ▸ owed)
  obtain ⟨head, rest, items, rfl, ready⟩ := tallied.retains.first packet last
  have first : pipe.component.gate.reopened.readyHead? = some head :=
    Gate.readyHead?_eq_some_iff.2 ⟨congrArg List.head? items, ready⟩
  -- the way is open, the request may leave, and there is room
  cases forwards with
  | idle unable =>
    rcases unable with blocked | none
    · cases blocked
    · cases first.symm.trans none
  | @taken _ _ answer _ items' =>
    obtain ⟨rfl, rfl⟩ := List.cons.inj (items.symm.trans items')
    exact ⟨head, rest, answer, items, last, rfl⟩
  | refused _ _ _ full => exact absurd (full.symm.trans room) Bool.false_ne_true

theorem retry {next : Pipeline} (retries : pipe.Retries next) :
    ∃ left, Tallied config next left := by
  have ordered := tallied.toOrdered.retry retries
  cases retries with
  | idle => exact ⟨outstanding, tallied⟩
  | passed owed room forwards =>
    obtain ⟨head, rest, answer, items, -, rfl⟩ := tallied.passes owed room forwards
    have settled : pipe.memory.settling.Refusals pipe.forwarded outstanding :=
      tallied.refusals.congr rfl rfl
    have reopened : pipe.component.gate.reopened.Retains outstanding :=
      tallied.retains.congr rfl rfl
    have forwarded : (pipe.withMemory (pipe.component.gate.reopened.dropHead head rest,
        pipe.memory.settling.accepting head.packet answer pipe.now)).forwarded =
          pipe.forwarded + 1 := forwarded_accepting rfl rfl
    exact ⟨none, { tallied with
      toOrdered := ordered
      retains := reopened.depart items
      refusals := forwarded ▸ settled.accept
      owed := rfl
      waits := rfl }⟩

theorem issue {next : Pipeline} (issues : pipe.Issues (none, next)) :
    Tallied config next outstanding := by
  have ordered := (tallied.toOrdered.issue issues).2
  cases issues with
  | idle => exact tallied
  | @admitted packet source cycles offers policy room =>
    obtain ⟨-, -, -, workload⟩ := offers.after
    have forwarded : (pipe.admitting source packet
        (Clock.edge pipe.now cycles pipe.component.config.clockPeriod)).forwarded =
          pipe.forwarded := by
      rw [forwarded_eq_add, sent_eq_add]
      simp only [admitting, offers.accepted_responses]
      rfl
    exact { tallied with
      toOrdered := ordered
      workload := workload.trans tallied.workload
      retains := tallied.retains.enter room packet
      refusals := forwarded ▸ tallied.refusals }
  | @refused packet source offers =>
    obtain ⟨-, -, -, workload⟩ := offers.after
    have forwarded : (pipe.turningAway source packet).forwarded = pipe.forwarded := by
      rw [forwarded_eq_add, sent_eq_add]
      simp only [turningAway, offers.rejected_responses]
      rfl
    exact { tallied with
      toOrdered := ordered
      workload := workload.trans tallied.workload
      retains := tallied.retains.turnAway
      refusals := forwarded ▸ tallied.refusals }

theorem wait (events : EventQueue (SimulationEvent SecureEvent)) :
    Tallied config { pipe with events } outstanding :=
  { tallied with toOrdered := { tallied.toOrdered with } }

theorem scheduleEdge :
    Gives Overflow (SecureModule.scheduleEdge pipe) fun next =>
      Tallied config next outstanding := by
  cases free : pipe.component.driver.canSchedule with
  | true =>
    apply (SecureModule.scheduleEdge_of_free tallied.period free).mono
    rintro _ rfl
    exact { tallied with toOrdered := { tallied.toOrdered with } }
  | false =>
    apply (SecureModule.scheduleEdge_of_busy tallied.period free).mono
    rintro _ rfl
    exact tallied

/-- Memory has turned down only requests that were created. -/
theorem outstanding_le :
    pipe.forwarded + outstanding.toList.length ≤ config.workload.numRequests := by
  have length := congrArg List.length tallied.order
  simp only [journey, List.length_map, List.length_append, List.length_range] at length
  have bounded := tallied.regular.bounded
  rw [tallied.workload] at bounded
  have queued : outstanding.toList.length ≤ pipe.component.gate.requests.items.length := by
    cases some : outstanding with
    | none => exact Nat.zero_le _
    | some packet =>
      obtain ⟨head, rest, items, -⟩ := tallied.retains.first packet some
      rw [items]
      exact Nat.succ_le_succ (Nat.zero_le _)
  rw [forwarded_eq_add, sent_eq_add, tallied.answered]
  omega

end Tallied

variable {next : Pipeline}

theorem Serves.log_eq (serves : pipe.Serves next) : next.memory.log = pipe.memory.log := by
  cases serves <;> rfl

theorem Issues.memory_eq (issues : pipe.Issues (none, next)) : next.memory = pipe.memory := by
  cases issues <;> rfl

end Pipeline

namespace Simulation

variable {config : BenchmarkConfig} {outstanding : Option Packet}
  {sim : Simulation SecureModule RecordedRequester RecordedMemory SecureEvent}

/-- Whichever event fires, the module holds the request that memory has turned down. -/
theorem preserves_tallied (config : BenchmarkConfig) : Preserves Overflow
    (fun sim : Simulation SecureModule RecordedRequester RecordedMemory SecureEvent =>
      ∃ outstanding, Pipeline.Tallied config sim.rig outstanding) := by
  rintro sim entry rest ⟨outstanding, tallied⟩ pending
  let before : Pipeline := { sim.rig with events := sim.rig.events.after entry rest }
  have fired : Pipeline.Tallied config before outstanding := tallied.wait _
  apply handle_gives
  cases entry.payload with
  | component event =>
    cases event with
    | edge =>
      obtain ⟨left, worked⟩ := fired.edgeWork
      rw [react_edge]
      exact worked.scheduleEdge.map fun rig kept => ⟨rfl, left, kept⟩
    | checkOver slot =>
      exact .ok ⟨rfl, outstanding, { fired with
        toOrdered := { fired.toOrdered with }
        retains := fired.retains.finishWait slot }⟩
  | clock =>
    apply tick_gives
    apply (turns_issues fired.toOrdered).mono
    rintro ⟨_, issued⟩ ⟨rfl, served, retried, serves, retries, issues⟩
    obtain ⟨left, passed⟩ := (fired.serve serves).retry retries
    have kept := passed.issue issues
    let after : Simulation SecureModule RecordedRequester RecordedMemory SecureEvent :=
      { sim with rig := issued, clock := sim.clock.occurred }
    have ended : Gives Overflow after.finishOrContinue fun next =>
        Pipeline.Tallied config next.rig left :=
      finishOrContinue_keeps (fun rig => Pipeline.Tallied config rig left)
        { kept with toOrdered := { kept.toOrdered with } } kept.wait
    exact ⟨rfl, ended.mono fun next kept => ⟨rfl, left, kept⟩⟩

theorem honoursRetry_of_tallied (tallied : Pipeline.Tallied config sim.rig outstanding) :
    sim.HonoursRetry := by
  intro entry rest served pending _ serve settles
  let before : Pipeline := { sim.rig with events := sim.rig.events.after entry rest }
  have fired : Pipeline.Tallied config before outstanding := tallied.wait _
  have serves : before.Serves served :=
    (Pipeline.serveResponse_serves before : Gives Overflow _ _).of_eq_ok serve
  obtain ⟨owed, room⟩ := RecordedMemory.settleRetry_fst_iff.1 settles
  have kept := fired.serve serves
  have retries := Pipeline.passRetry_retries kept.plain
  have again := kept.toOrdered.retry retries
  have turned : turns before = issueRequest (passRetry served) := by rw [turns, serve, ok_bind]
  generalize passRetry served = retried at retries again turned
  cases retries with
  | idle quiet =>
    rcases quiet with none | full
    · exact absurd (none.symm.trans owed) Bool.false_ne_true
    · exact absurd (full.symm.trans room) Bool.false_ne_true
  | passed _ _ forwards =>
    obtain ⟨head, _, _, _, last, rfl⟩ := kept.passes owed room forwards
    refine ⟨head.packet, tallied.refusals.getLast? last, ?_⟩
    apply tick_log
    rw [turned]
    apply (Pipeline.issueRequest_sends again.regular again.period .overflow
      fun _ _ _ _ _ => .overflow).mono
    rintro ⟨_, issued⟩ ⟨rfl, _, _, _, -, sends⟩
    have now : served.now = entry.tick := congrArg EventQueue.now serves.frame.2.1
    have log : issued.memory.log =
        served.memory.log ++ [.offered served.now head.packet .accepted] := by
      rw [sends.issues.memory_eq]
      rfl
    rw [now, serves.log_eq] at log
    exact ⟨rfl, log, rfl⟩

/-- Between any two events no retry is in vain. -/
theorem heeds_of_tallied (tallied : Pipeline.Tallied config sim.rig outstanding) :
    sim.Heeds config where
  honours := honoursRetry_of_tallied tallied
  counted := tallied.refusals.counted
  once := tallied.refusals.once
  bounded := tallied.refusals.rejections_le tallied.outstanding_le

theorem opening_tallied (period : 0 < config.secureModule.clockPeriod)
    (line : 0 < config.workload.lineSize)
    (fits : config.secureModule.requestCapacity + 1 < 2 ^ 32) :
    Pipeline.Tallied config (opening config.secureModule
      (Recorded.blank (RequestGenerator.fresh config.workload))
      (Recorded.blank (MemoryModel.idle config.memory))).rig none where
  toOrdered := { assemble_ordered period line config.memory with }
  workload := rfl
  retains := Gate.retains_empty fits _
  refusals := RecordedMemory.blank_refusals config.memory
  owed := rfl
  waits := rfl

end Simulation

end GatedMemory
