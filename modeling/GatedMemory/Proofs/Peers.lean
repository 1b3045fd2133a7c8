import GatedMemory.Proofs.Outcome
import GatedMemory.Proofs.Recorded

set_option autoImplicit false

namespace GatedMemory

theorem Workload.pos_of_validate {workload : Workload} (valid : workload.validate = .ok ()) :
    0 < workload.lineSize ∧ 0 < workload.maxOutstanding := by
  unfold validate at valid
  split at valid
  · cases valid
  · split at valid
    · cases valid
    · split at valid
      · cases valid
      · omega

theorem MemoryConfig.validate_eq_ok_iff {config : MemoryConfig} :
    config.validate = .ok () ↔ 0 < config.maxOutstanding := by
  unfold validate
  split
  · simp only [reduceCtorEq, false_iff]
    omega
  · simp only [true_iff]
    omega

/-- Bytes that the addresses come to which must not wrap around. -/
def Workload.reach (workload : Workload) : Nat :=
  match workload.pattern with
  | .sequential => 0
  | .strided _ => workload.workingSetLines * workload.lineSize
  | .random _ =>
    (if workload.workingSetLines = 0 then RequestGenerator.unlimitedLines
      else workload.workingSetLines) * workload.lineSize

/-- The address of some request of the workload cannot be computed, for this reason. -/
def Workload.Faults (workload : Workload) (fault : Fault) : Prop :=
  ∃ number position, RequestGenerator.addressOf workload number position = .error fault

/-- A plain read or a plain write, which is all that a workload consists of. -/
def Packet.IsAccess (packet : Packet) : Prop :=
  packet.command = .readReq ∨ packet.command = .writeReq

namespace Packet.IsAccess

variable {packet : Packet} (access : packet.IsAccess)
include access

theorem response? : ∃ answer, packet.response? = some answer ∧ answer.id = packet.id ∧
    answer.createdAt = packet.createdAt := by
  rcases access with command | command
  · exact ⟨{ packet with
      command := .readResp, data := responseData packet.size .readResp }, by
        simp only [Packet.response?, command, Command.response?, Option.map_some], rfl, rfl⟩
  · exact ⟨{ packet with
      command := .writeResp, data := responseData packet.size .writeResp }, by
        simp only [Packet.response?, command, Command.response?, Option.map_some], rfl, rfl⟩

theorem kind : packet.command.kind = .read ∨ packet.command.kind = .write := by
  rcases access with command | command
  · exact .inl (by rw [command, Command.kind_eq])
  · exact .inr (by rw [command, Command.kind_eq])

end Packet.IsAccess

namespace TrafficStats

/-- Counters of a requester to which nothing was handed back, with one round trip for all. -/
def uniform (roundTrip issued responses : Nat) : TrafficStats :=
  { issued, responses
    totalRoundTrip := responses * roundTrip
    maxRoundTrip := if responses = 0 then 0 else roundTrip }

theorem uniform_addResponse (roundTrip issued responses : Nat) :
    (uniform roundTrip issued responses).addResponse roundTrip =
      uniform roundTrip issued (responses + 1) := by
  simp only [uniform, addResponse, Nat.succ_mul]
  congr 1
  split <;> simp

end TrafficStats

namespace RequestGenerator

variable {source : RequestGenerator} {workload : Workload} {number address now : Nat}

theorem requestOf_id : (requestOf workload number address now).id = number := by
  unfold requestOf
  split <;> rfl

theorem requestOf_createdAt : (requestOf workload number address now).createdAt = now := by
  unfold requestOf
  split <;> rfl

theorem requestOf_access : (requestOf workload number address now).IsAccess := by
  unfold requestOf
  split
  · exact .inl rfl
  · exact .inr rfl

/-- The requester offers a packet: the one that it holds, else a new one. -/
inductive Offers (source : RequestGenerator) (now : Nat) : Packet → RequestGenerator → Prop where
  | held {packet : Packet} (free : source.awaitsRetry = false)
    (held : source.held = some packet) : Offers source now packet { source with held := none }
  | created {address position : Nat} (free : source.awaitsRetry = false)
    (empty : source.held = none) (more : source.canCreate = true) :
    Offers source now (requestOf source.workload source.created address now)
      { source with created := source.created + 1, position }

inductive Nexts (source : RequestGenerator) (now : Nat) : Option Packet × RequestGenerator → Prop
  where
  | idle (quiet : source.awaitsRetry = true ∨ source.held = none ∧ source.canCreate = false) :
    Nexts source now (none, source)
  | offers {packet : Packet} {source' : RequestGenerator}
    (offers : source.Offers now packet source') : Nexts source now (some packet, source')

theorem drawn_lines_pos (workload : Workload) :
    0 < if workload.workingSetLines = 0 then unlimitedLines else workload.workingSetLines := by
  split
  · decide
  · exact Nat.pos_of_ne_zero ‹_›

theorem addressOf_gives (line : 0 < workload.lineSize) (number position : Nat) :
    Gives (Exceeds workload.reach) (addressOf workload number position) fun _ => True := by
  unfold addressOf Workload.reach
  cases workload.pattern with
  | sequential => exact .ok trivial
  | strided stride =>
    by_cases unlimited : workload.workingSetLines = 0
    · simp only [unlimited, ↓reduceIte]
      exact .ok trivial
    · have bytes : workload.workingSetLines * workload.lineSize ≠ 0 :=
        Nat.mul_ne_zero unlimited (Nat.ne_of_gt line)
      simp only [unlimited, ↓reduceIte]
      apply (toWord_exceeds _ _).bind
      rintro _ rfl
      simp only [bytes, ↓reduceIte]
      exact .ok trivial
  | random stream =>
    have some_lines := drawn_lines_pos workload
    simp only [RandomStream.draw, Nat.ne_of_gt some_lines, ↓reduceIte, ok_bind]
    apply ((toWord_exceeds _ _).weaken fun _ exceeds =>
      exceeds.mono (Nat.mul_le_mul_right _ (Nat.le_of_lt (stream.next_lt some_lines)))).bind
    rintro word -
    exact .ok trivial

theorem exceeds_of_faults (line : 0 < workload.lineSize) {fault : Fault}
    (faults : workload.Faults fault) : Exceeds workload.reach fault := by
  obtain ⟨number, position, broken⟩ := faults
  have gives := addressOf_gives line number position
  rw [broken] at gives
  exact gives

/-- Asking for the next request goes wrong where its address cannot be computed, and only there. -/
theorem next_gives (source : RequestGenerator) (now : Nat) :
    Gives source.workload.Faults (source.next now) (Nexts source now) := by
  unfold next
  by_cases awaits : source.awaitsRetry = true
  · rw [if_pos awaits]
    exact .idle (.inl awaits)
  · rw [if_neg awaits]
    have free : source.awaitsRetry = false := Bool.eq_false_iff.2 awaits
    split
    case h_1 packet holds => exact .offers (.held free holds)
    case h_2 holds =>
      by_cases more : source.canCreate = true
      · rw [if_pos more, create]
        cases found : addressOf source.workload source.created source.position with
        | error fault => exact ⟨source.created, source.position, found⟩
        | ok => exact .offers (.created free holds more)
      · rw [if_neg more]
        exact .idle (.inr ⟨holds, Bool.eq_false_iff.2 more⟩)

theorem next_cases (line : 0 < source.workload.lineSize) (now : Nat) :
    Gives (Exceeds source.workload.reach) (source.next now) (Nexts source now) :=
  (source.next_gives now).weaken fun _ => exceeds_of_faults line

theorem oversize?_eq_none_iff :
    source.oversize? = none ↔ source.stats.totalRoundTrip < UInt64.size := by
  rw [← Nat.not_le]
  simp only [oversize?, dite_eq_right_iff, reduceCtorEq, imp_false]

theorem canCreate_iff : source.canCreate = true ↔ source.created < source.workload.numRequests ∧
    source.inFlight < source.workload.maxOutstanding := by
  simp only [canCreate, Bool.and_eq_true, decide_eq_true_eq]

theorem isFinished_iff :
    source.isFinished = true ↔ source.workload.numRequests ≤ source.stats.responses := by
  rw [isFinished, decide_eq_true_eq]

theorem isFinished_eq_false_iff :
    source.isFinished = false ↔ source.stats.responses < source.workload.numRequests := by
  rw [isFinished, decide_eq_false_iff_not, Nat.not_le]

/-- What holds of every requester between two requests. -/
structure Regular (source : RequestGenerator) : Prop where
  line : 0 < source.workload.lineSize
  issued : source.created = source.stats.issued + source.held.toList.length
  bounded : source.created ≤ source.workload.numRequests
  held : ∀ packet ∈ source.held, packet.IsAccess

theorem fresh_regular (line : 0 < workload.lineSize) : (fresh workload).Regular where
  line := line
  issued := rfl
  bounded := Nat.zero_le _
  held := nofun

/-- Once everything that was issued is answered, the next request can go out, or none is left. -/
theorem Regular.ready (regular : source.Regular) (window : 0 < source.workload.maxOutstanding)
    (answered : source.stats.issued = source.stats.responses)
    (unfinished : source.isFinished = false) :
    source.held.isSome = true ∨ source.canCreate = true := by
  have issued := regular.issued
  rw [isFinished_eq_false_iff] at unfinished
  cases held : source.held with
  | some packet => exact .inl rfl
  | none =>
    rw [held, Option.toList_none, List.length_nil] at issued
    refine .inr (canCreate_iff.2 ⟨by omega, ?_⟩)
    rw [inFlight]
    omega

namespace Offers

variable {packet : Packet} {source' : RequestGenerator} (offers : source.Offers now packet source')
include offers

theorem free : source.awaitsRetry = false := by
  cases offers <;> assumption

theorem after : source'.held = none ∧ source'.awaitsRetry = false ∧
    source'.stats = source.stats ∧ source'.workload = source.workload := by
  cases offers with
  | held free _ => exact ⟨rfl, free, rfl, rfl⟩
  | created free empty _ => exact ⟨empty, free, rfl, rfl⟩

theorem eq_of_held {other : Packet} (holds : source.held = some other) : packet = other := by
  cases offers with
  | held _ held => exact Option.some.inj (held.symm.trans holds)
  | created _ empty _ =>
    rw [empty] at holds
    cases holds

/-- A requester that holds nothing offers a new packet. -/
theorem created_of_empty (empty : source.held = none) : source.canCreate = true ∧
    packet.id = source.created ∧ packet.createdAt = now ∧ source'.created = source.created + 1 := by
  cases offers with
  | held _ holds =>
    rw [empty] at holds
    cases holds
  | created _ _ more => exact ⟨more, requestOf_id, requestOf_createdAt, rfl⟩

theorem le_created : source.created ≤ source'.created := by
  cases offers with
  | held => exact Nat.le_refl _
  | created => exact Nat.le_succ _

theorem accepted_issued : source'.accepted.stats.issued = source.stats.issued + 1 := by
  obtain ⟨-, -, stats, -⟩ := offers.after
  rw [← stats]
  rfl

theorem accepted_responses : source'.accepted.stats.responses = source.stats.responses := by
  obtain ⟨-, -, stats, -⟩ := offers.after
  rw [← stats]
  rfl

theorem rejected_issued : (source'.rejected packet).stats.issued = source.stats.issued := by
  obtain ⟨-, -, stats, -⟩ := offers.after
  rw [← stats]
  rfl

theorem rejected_responses :
    (source'.rejected packet).stats.responses = source.stats.responses := by
  obtain ⟨-, -, stats, -⟩ := offers.after
  rw [← stats]
  rfl

theorem access (regular : source.Regular) : packet.IsAccess := by
  cases offers with
  | held _ holds => exact regular.held packet holds
  | created => exact requestOf_access

theorem created_eq (regular : source.Regular) : source'.created = source.stats.issued + 1 := by
  have issued := regular.issued
  cases offers with
  | held _ held =>
    rw [held, Option.toList_some, List.length_singleton] at issued
    exact issued
  | created _ empty _ =>
    rw [empty, Option.toList_none, List.length_nil] at issued
    exact congrArg Nat.succ issued

theorem created_le (regular : source.Regular) :
    source'.created ≤ source.workload.numRequests := by
  cases offers with
  | held => exact regular.bounded
  | created _ _ more => exact (canCreate_iff.1 more).1

theorem accepted_regular (regular : source.Regular) : source'.accepted.Regular := by
  obtain ⟨held, -, stats, workload⟩ := offers.after
  refine ⟨?_, ?_, ?_, ?_⟩
  · exact workload ▸ regular.line
  · simp only [accepted, offers.created_eq regular, held, stats, Option.toList_none,
      List.length_nil, Nat.add_zero]
  · exact workload ▸ offers.created_le regular
  · simp only [accepted, held]
    exact nofun

theorem rejected_regular (regular : source.Regular) : (source'.rejected packet).Regular := by
  obtain ⟨held, -, stats, workload⟩ := offers.after
  refine ⟨?_, ?_, ?_, ?_⟩
  · exact workload ▸ regular.line
  · simp only [rejected, offers.created_eq regular, stats, Option.toList_some,
      List.length_singleton]
  · exact workload ▸ offers.created_le regular
  · intro other member
    cases member
    exact offers.access regular

/-- What is offered was created, and is no longer held. -/
theorem counted
    (created : source.stats.issued + source.held.toList.length ≤ source.created)
    (bounded : source.created ≤ source.workload.numRequests) :
    source.stats.issued + 1 ≤ source'.created ∧
      source'.created ≤ source.workload.numRequests := by
  cases offers with
  | held _ held =>
    rw [held, Option.toList_some, List.length_singleton] at created
    exact ⟨created, bounded⟩
  | created _ _ more =>
    exact ⟨Nat.succ_le_succ (Nat.le_of_add_right_le created), (canCreate_iff.1 more).1⟩

/-- The packet comes next after those that went before. -/
theorem order {ids : List Nat}
    (order : ids ++ source.held.toList.map Packet.id = List.range source.created) :
    ids ++ [packet.id] = List.range source'.created := by
  cases offers with
  | held _ holds =>
    rw [holds] at order
    exact order
  | created _ empty _ =>
    rw [empty, Option.toList_none, List.map_nil, List.append_nil] at order
    rw [List.range_succ, order, requestOf_id]

end Offers

end RequestGenerator

abbrev RecordedRequester := Recorded RequestGenerator

namespace RecordedRequester

def receiving (requester : RecordedRequester) (packet : Packet) (now : Nat) : RecordedRequester :=
  requester.note (requester.peer.offer packet now).2 (.offered now packet .accepted)

def resuming (requester : RecordedRequester) : RecordedRequester :=
  requester.note requester.peer.requestRetry .retried

variable {requester : RecordedRequester} {packet : Packet} {now : Nat}

theorem offer_eq : ResponseSink.offer packet now requester =
    (.accepted, requester.receiving packet now) := rfl

theorem taken_receiving :
    (requester.receiving packet now).taken = requester.taken ++ [packet] :=
  Recorded.taken_note requester _ _

theorem taken_resuming : requester.resuming.taken = requester.taken :=
  (Recorded.taken_note requester _ _).trans (List.append_nil _)

inductive Nexts (requester : RecordedRequester) (now : Nat) :
    Option Packet × RecordedRequester → Prop where
  | idle (quiet : requester.peer.awaitsRetry = true ∨
      requester.peer.held = none ∧ requester.peer.canCreate = false) :
    Nexts requester now (none, requester)
  | offers {packet : Packet} {source : RequestGenerator}
    (offers : requester.peer.Offers now packet source) :
    Nexts requester now (some packet, { requester with peer := source })

theorem next_cases (line : 0 < requester.peer.workload.lineSize) (now : Nat) :
    Gives (Exceeds requester.peer.workload.reach) (TrafficSource.next now requester)
      (requester.Nexts now) := by
  apply (RequestGenerator.next_cases line now).bind
  intro outcome cases
  cases cases with
  | idle quiet => exact .ok (.idle quiet)
  | offers offers => exact .ok (.offers offers)

end RecordedRequester

theorem MemoryModel.oversize?_eq_none_iff {memory : MemoryModel} :
    memory.oversize? = none ↔ ∀ entry ∈ memory.serving, entry.1 < UInt64.size := by
  simp only [oversize?, List.findSome?_eq_none_iff, dite_eq_right_iff, reduceCtorEq, imp_false,
    Nat.not_le]

abbrev RecordedMemory := Recorded MemoryModel

namespace RecordedMemory

/-- The memory after it has taken a request into service. -/
def accepting (memory : RecordedMemory) (packet answer : Packet) (now : Nat) : RecordedMemory :=
  memory.note
    { memory.peer with
      accesses := memory.peer.accesses + 1
      serving := memory.peer.serving ++ [(now + memory.peer.config.accessLatency, answer)] }
    (.offered now packet .accepted)

def refusing (memory : RecordedMemory) (packet : Packet) (now : Nat) : RecordedMemory :=
  memory.note
    { memory.peer with owesRetry := true, rejections := memory.peer.rejections + 1 }
    (.offered now packet (.rejected packet))

def resuming (memory : RecordedMemory) : RecordedMemory :=
  memory.note memory.peer.responseRetry .retried

def withServing (memory : RecordedMemory) (serving : List (Nat × Packet)) : RecordedMemory :=
  { memory with peer := { memory.peer with serving } }

/-- The memory after it was refused the response that it had taken out of service. -/
def puttingBack (memory : RecordedMemory) (packet : Packet) (now : Nat) : RecordedMemory :=
  { memory with peer := memory.peer.putBack packet now }

def settling (memory : RecordedMemory) : RecordedMemory :=
  { memory with peer := { memory.peer with owesRetry := false } }

variable {memory : RecordedMemory} {packet answer : Packet} {now : Nat}

theorem hasRoom_iff : memory.peer.hasRoom = true ↔
    memory.peer.serving.length < memory.peer.config.maxOutstanding := by
  simp only [MemoryModel.hasRoom, decide_eq_true_eq]

theorem hasRoom_of_idle (positive : 0 < memory.peer.config.maxOutstanding)
    (idle : memory.peer.serving = []) : memory.peer.hasRoom = true := by
  rw [hasRoom_iff, idle]
  exact positive

theorem offer_of_room (room : memory.peer.hasRoom = true)
    (answered : packet.response? = some answer) :
    RequestSink.offer packet now memory = (.accepted, memory.accepting packet answer now) := by
  simp only [RequestSink.offer, MemoryModel.offer, room, answered, ↓reduceIte]
  rfl

theorem offer_of_full (full : memory.peer.hasRoom = false) :
    RequestSink.offer packet now memory = (.rejected packet, memory.refusing packet now) := by
  simp only [RequestSink.offer, MemoryModel.offer, full, Bool.false_eq_true, ↓reduceIte]
  rfl

/-- What taking the next response out of service can give. -/
inductive TakesReady (memory : RecordedMemory) (now : Nat) : Option Packet × RecordedMemory → Prop
  where
  | idle (quiet : memory.peer.responseBlocked = true ∨
      ∀ entry ∈ memory.peer.serving.head?, now < entry.1) : TakesReady memory now (none, memory)
  | taken {due : Nat} {answer : Packet} {rest : List (Nat × Packet)}
    (unblocked : memory.peer.responseBlocked = false)
    (serving : memory.peer.serving = (due, answer) :: rest) (ready : due ≤ now) :
    TakesReady memory now (some answer, memory.withServing rest)

theorem takeReady_cases (memory : RecordedMemory) (now : Nat) :
    TakesReady memory now (ResponseSource.takeReady now memory) := by
  simp only [ResponseSource.takeReady, MemoryModel.takeReady]
  by_cases blocked : memory.peer.responseBlocked = true
  · simp only [blocked, ↓reduceIte]
    exact .idle (.inl blocked)
  · have unblocked := Bool.eq_false_iff.2 blocked
    simp only [if_neg blocked]
    split
    case h_1 serving => exact .idle (.inr (by simp [serving]))
    case h_2 due answer rest serving =>
      by_cases ready : due ≤ now
      · simp only [if_pos ready]
        exact .taken unblocked serving ready
      · simp only [if_neg ready]
        exact .idle (.inr (by simp [serving]; omega))

theorem taken_accepting : (memory.accepting packet answer now).taken = memory.taken ++ [packet] :=
  Recorded.taken_note memory _ _

theorem taken_refusing : (memory.refusing packet now).taken = memory.taken :=
  (Recorded.taken_note memory _ _).trans (List.append_nil _)

theorem taken_resuming : memory.resuming.taken = memory.taken :=
  (Recorded.taken_note memory _ _).trans (List.append_nil _)

theorem receipts_accepting : (memory.accepting packet answer now).receipts =
    memory.receipts ++ [(now, packet)] :=
  Recorded.receipts_note memory _ _

theorem receipts_refusing : (memory.refusing packet now).receipts = memory.receipts :=
  (Recorded.receipts_note memory _ _).trans (List.append_nil _)

theorem receipts_resuming : memory.resuming.receipts = memory.receipts :=
  (Recorded.receipts_note memory _ _).trans (List.append_nil _)

theorem settleRetry_of_owed (owed : memory.peer.owesRetry = true)
    (room : memory.peer.hasRoom = true) :
    ResponseSource.settleRetry memory = (true, memory.settling) := by
  simp only [ResponseSource.settleRetry, MemoryModel.settleRetry, owed, room, Bool.and_self,
    ↓reduceIte]
  rfl

theorem settleRetry_of_idle
    (idle : memory.peer.owesRetry = false ∨ memory.peer.hasRoom = false) :
    ResponseSource.settleRetry memory = (false, memory) := by
  rcases idle with idle | idle <;>
    simp only [ResponseSource.settleRetry, MemoryModel.settleRetry, idle, Bool.false_and,
      Bool.and_false, Bool.false_eq_true, ↓reduceIte]

theorem settleRetry_fst_iff : (ResponseSource.settleRetry memory).1 = true ↔
    memory.peer.owesRetry = true ∧ memory.peer.hasRoom = true := by
  simp only [ResponseSource.settleRetry, MemoryModel.settleRetry]
  cases memory.peer.owesRetry <;> cases memory.peer.hasRoom <;> simp

end RecordedMemory

end GatedMemory
