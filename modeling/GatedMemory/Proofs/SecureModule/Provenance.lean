import GatedMemory.Proofs.SecureModule.Course
import Mathlib.Algebra.Ring.Nat

set_option autoImplicit false

namespace GatedMemory

/-- The packet answers a request that is dated by the offers. -/
def Packet.AnswersDated (answer : Packet) (offers : List (Nat × Packet)) : Prop :=
  ∃ request : Packet, request.response? = some answer ∧ request.DatedBy offers

namespace Packet.AnswersDated

variable {offers : List (Nat × Packet)} {answer : Packet}

theorem append (answers : answer.AnswersDated offers) (more : List (Nat × Packet)) :
    answer.AnswersDated (offers ++ more) := by
  obtain ⟨request, answered, dated⟩ := answers
  exact ⟨request, answered, dated.append more⟩

/-- Its request was offered first when the packet says. -/
theorem created_lt {clock : Nat} (answers : answer.AnswersDated offers)
    (past : ∀ offer ∈ offers, offer.1 < clock) : answer.createdAt < clock := by
  obtain ⟨request, answered, dated⟩ := answers
  rw [Packet.eq_of_response? answered]
  exact past _ dated.mem

end Packet.AnswersDated

/-- How long a response took, from the creation of its request. -/
def roundTrip (receipt : Nat × Packet) : Nat :=
  receipt.1 - receipt.2.createdAt

namespace RecordedRequester

variable {requester : RecordedRequester}

/-- The requester has added up the round trips of the responses that it took, and knows the longest
one. -/
structure Measures (requester : RecordedRequester) : Prop where
  total : requester.peer.stats.totalRoundTrip = (requester.receipts.map roundTrip).sum
  longest : requester.peer.stats.maxRoundTrip = (requester.receipts.map roundTrip).foldl max 0

namespace Measures

theorem blank (workload : Workload) :
    Measures (Recorded.blank (RequestGenerator.fresh workload)) where
  total := rfl
  longest := rfl

variable (measures : requester.Measures)
include measures

theorem receive (packet : Packet) (now : Nat) : (requester.receiving packet now).Measures where
  total := by
    rw [receipts_receiving, List.map_append, List.sum_append, ← measures.total]
    rfl
  longest := by
    rw [receipts_receiving, List.map_append, List.foldl_append, ← measures.longest]
    rfl

theorem resume : requester.resuming.Measures where
  total := by
    rw [receipts_resuming, ← measures.total]
    rfl
  longest := by
    rw [receipts_resuming, ← measures.longest]
    rfl

variable {now : Nat} {packet : Packet} {source : RequestGenerator}
  (offers : requester.peer.Offers now packet source)
include offers

theorem issue : Measures { requester with peer := source.accepted } := by
  obtain ⟨-, -, stats, -⟩ := offers.after
  refine ⟨?_, ?_⟩
  · simp only [RequestGenerator.accepted, stats]
    exact measures.total
  · simp only [RequestGenerator.accepted, stats]
    exact measures.longest

theorem reject : Measures { requester with peer := source.rejected packet } := by
  obtain ⟨-, -, stats, -⟩ := offers.after
  refine ⟨?_, ?_⟩
  · simp only [RequestGenerator.rejected, stats]
    exact measures.total
  · simp only [RequestGenerator.rejected, stats]
    exact measures.longest

end Measures

end RecordedRequester

def AdmissionStats.among (packets : List Packet) : AdmissionStats where
  reads := packets.countP fun packet => packet.command = .readReq
  writes := packets.countP fun packet => packet.command = .writeReq

theorem AdmissionStats.record_among {packet : Packet} (access : packet.IsAccess)
    (packets : List Packet) :
    (among packets).record packet.command.kind = among (packets ++ [packet]) := by
  rcases access with command | command
  · simp [among, record, command, Command.kind_eq]
  · simp [among, record, command, Command.kind_eq]

namespace Pipeline

variable {pipe next : Pipeline} {log : List (Nat × Packet)} {clock : Nat}

/-- The requests that the module has admitted, oldest first: those that memory has taken, and those
that are queued. -/
def admitted (pipe : Pipeline) : List Packet :=
  pipe.memory.taken ++ pipe.component.gate.requests.items.map QueuedRequest.packet

/-- The responses that memory has prepared, oldest first: those that the requester has taken, those
that are queued, and those in service. -/
def prepared (pipe : Pipeline) : List Packet :=
  pipe.requester.taken ++ pipe.component.gate.responses.items ++
    pipe.memory.peer.serving.map Prod.snd

/-- Every packet goes back to a first offer before the tick of the clock. -/
structure Traced (pipe : Pipeline) (log : List (Nat × Packet)) (clock : Nat) : Prop where
  past : ∀ offer ∈ log, offer.1 < clock
  numbered : ∀ offer ∈ log, offer.2.id < pipe.requester.peer.created
  order : (pipe.admitted ++ pipe.requester.peer.held.toList).map Packet.id =
    List.range pipe.requester.peer.created
  dated : ∀ packet ∈ pipe.admitted ++ pipe.requester.peer.held.toList, packet.DatedBy log
  answers : ∀ answer ∈ pipe.prepared, answer.AnswersDated log
  delivered : ∀ receipt ∈ pipe.requester.receipts, receipt.2.createdAt ≤ receipt.1
  measures : pipe.requester.Measures
  counted : pipe.component.stats = AdmissionStats.among pipe.admitted

namespace Traced

variable (traced : pipe.Traced log clock)
include traced

/-- What the packets, the requester and the counters say is all that matters. -/
theorem congr (requester : next.requester = pipe.requester)
    (admitted : next.admitted = pipe.admitted) (prepared : next.prepared = pipe.prepared)
    (stats : next.component.stats = pipe.component.stats) : next.Traced log clock where
  past := traced.past
  numbered := requester ▸ traced.numbered
  order := by
    rw [admitted, requester]
    exact traced.order
  dated := by
    rw [admitted, requester]
    exact traced.dated
  answers := by
    rw [prepared]
    exact traced.answers
  delivered := requester ▸ traced.delivered
  measures := requester ▸ traced.measures
  counted := by
    rw [admitted, stats]
    exact traced.counted

theorem forward {outcome : Gate × RecordedMemory}
    (forwards : SecureModule.Forwards pipe.component.gate pipe.memory pipe.now outcome) :
    (pipe.withMemory outcome).Traced log clock := by
  cases forwards with
  | idle => exact { traced with }
  | @taken head rest answer _ items _ _ answered =>
    let sent := pipe.withMemory (pipe.component.gate.dropHead head rest,
      pipe.memory.accepting head.packet answer pipe.now)
    have admitted : sent.admitted = pipe.admitted := by
      simp only [sent, Pipeline.admitted, withMemory, Gate.dropHead, items,
        RecordedMemory.taken_accepting, List.map_cons, List.append_assoc, List.singleton_append]
    have prepared : sent.prepared = pipe.prepared ++ [answer] := by
      simp only [sent, Pipeline.prepared, withMemory, Gate.dropHead, RecordedMemory.accepting,
        Recorded.note, List.map_append, List.map_cons, List.map_nil, List.append_assoc]
    have head_dated : head.packet.DatedBy log := by
      apply traced.dated
      simp [Pipeline.admitted, items]
    refine { traced with order := ?_, dated := ?_, answers := ?_, counted := ?_ }
    · rw [admitted]
      exact traced.order
    · rw [admitted]
      exact traced.dated
    · rw [prepared]
      intro answer' member
      rcases List.mem_append.1 member with old | new
      · exact traced.answers answer' old
      · rw [List.mem_singleton.1 new]
        exact ⟨head.packet, answered, head_dated⟩
    · rw [admitted]
      exact traced.counted
  | @refused head rest _ items =>
    refine traced.congr rfl ?_ rfl rfl
    simp only [Pipeline.admitted, withMemory, Gate.keepHead, items, RecordedMemory.taken_refusing]

theorem deliver (now : pipe.now = clock) {outcome : Gate × RecordedRequester}
    (delivers : SecureModule.Delivers pipe.component.gate pipe.requester pipe.now outcome) :
    (pipe.withRequester outcome).Traced log clock := by
  cases delivers with
  | idle => exact { traced with }
  | @taken head rest _ items =>
    have prepared : (pipe.withRequester
        ({ pipe.component.gate with
          responses := { pipe.component.gate.responses with items := rest } },
        pipe.requester.receiving head pipe.now)).prepared = pipe.prepared := by
      simp only [Pipeline.prepared, withRequester, items, RecordedRequester.taken_receiving,
        List.append_assoc, List.singleton_append]
    have answers : head.AnswersDated log := by
      apply traced.answers
      simp [Pipeline.prepared, items]
    refine { traced with answers := ?_, delivered := ?_, measures := ?_ }
    · rw [prepared]
      exact traced.answers
    · rw [withRequester, RecordedRequester.receipts_receiving]
      intro receipt member
      rcases List.mem_append.1 member with old | new
      · exact traced.delivered receipt old
      · rw [List.mem_singleton.1 new]
        exact Nat.le_of_lt (now ▸ answers.created_lt traced.past)
    · exact traced.measures.receive head pipe.now

theorem settleRequestRetry : Traced (SecureModule.settleRequestRetry pipe) log clock := by
  have taken : pipe.requester.resuming.taken = pipe.requester.taken :=
    RecordedRequester.taken_resuming
  have receipts : pipe.requester.resuming.receipts = pipe.requester.receipts :=
    RecordedRequester.receipts_resuming
  apply SecureModule.settleRequestRetry_keeps (Traced · log clock) traced
  refine { traced with answers := ?_, delivered := ?_, measures := traced.measures.resume }
  · rw [prepared, withRequester, taken]
    exact traced.answers
  · rw [withRequester, receipts]
    exact traced.delivered

theorem settleResponseRetry : Traced (SecureModule.settleResponseRetry pipe) log clock := by
  apply SecureModule.settleResponseRetry_keeps (Traced · log clock) traced
  refine traced.congr rfl ?_ rfl rfl
  rw [admitted, withMemory, RecordedMemory.taken_resuming]
  rfl

theorem edgeWork (ordered : pipe.Ordered) (now : pipe.now = clock) :
    Traced (SecureModule.edgeWork pipe) log clock := by
  have fired : Traced (SecureModule.edgeFired pipe) log clock := { traced with }
  have sent := fired.forward (SecureModule.sendRequest_forwards ordered.plain)
  rw [← SecureModule.drainRequest_eq] at sent
  have delivered := sent.deliver now SecureModule.sendResponse_delivers
  rw [← SecureModule.drainResponse_eq] at delivered
  exact delivered.settleRequestRetry.settleResponseRetry

theorem serve (serves : pipe.Serves next) : next.Traced log clock := by
  cases serves with
  | idle => exact traced
  | @admitted due answer rest _ serving =>
    refine traced.congr rfl rfl ?_ rfl
    simp only [prepared, withMemory, Gate.withResponse, RecordedMemory.withServing, serving,
      List.map_cons, List.append_assoc, List.singleton_append]
  | @refused due answer rest _ serving =>
    refine traced.congr rfl rfl ?_ rfl
    rw [prepared, prepared, serving]
    rfl

theorem retry (retries : pipe.Retries next) : next.Traced log clock := by
  cases retries with
  | idle => exact traced
  | @passed outcome _ _ forwards =>
    have reopened :
        (pipe.withMemory (pipe.component.gate.reopened, pipe.memory.settling)).Traced log clock :=
      traced.congr rfl rfl rfl rfl
    exact reopened.forward forwards

section Offers

variable {packet : Packet} {source : RequestGenerator}
  (offers : pipe.requester.peer.Offers clock packet source)
include offers

theorem order_offers :
    (pipe.admitted ++ [packet]).map Packet.id = List.range source.created := by
  have order := traced.order
  rw [List.map_append] at order ⊢
  exact offers.order order

/-- What is offered was offered first when it was created: either now, or before it was handed
back. -/
theorem dated_offers : packet.DatedBy (log ++ [(clock, packet)]) := by
  cases held : pipe.requester.peer.held with
  | some other =>
    rw [offers.eq_of_held held]
    refine (traced.dated other ?_).append _
    rw [held]
    exact List.mem_append_right _ (List.mem_singleton_self other)
  | none =>
    obtain ⟨-, number, createdAt, -⟩ := offers.created_of_empty held
    rw [← createdAt]
    -- its number is new, so no earlier offer can be taken for its first
    apply Packet.DatedBy.first
    intro offer member
    have earlier := traced.numbered offer member
    omega

theorem createdAt_le : packet.createdAt ≤ clock := by
  rcases List.mem_append.1 (traced.dated_offers offers).mem with old | new
  · exact Nat.le_of_lt (traced.past _ old)
  · exact Nat.le_of_eq (congrArg Prod.fst (List.mem_singleton.1 new))

/-- What is offered is the next of the requests, whether it is admitted or handed back. -/
theorem offer (requests : next.admitted ++ next.requester.peer.held.toList =
      pipe.admitted ++ [packet]) (created : next.requester.peer.created = source.created)
    (prepared : next.prepared = pipe.prepared)
    (receipts : next.requester.receipts = pipe.requester.receipts)
    (measures : next.requester.Measures)
    (counted : next.component.stats = AdmissionStats.among next.admitted) :
    next.Traced (log ++ [(clock, packet)]) (clock + 1) where
  past := by
    intro offer member
    rcases List.mem_append.1 member with old | new
    · exact Nat.lt_succ_of_lt (traced.past offer old)
    · rw [List.mem_singleton.1 new]
      exact Nat.lt_succ_self _
  numbered := by
    intro offer member
    rw [created]
    rcases List.mem_append.1 member with old | new
    · exact Nat.lt_of_lt_of_le (traced.numbered offer old) offers.le_created
    · rw [List.mem_singleton.1 new, ← List.mem_range, ← traced.order_offers offers]
      exact List.mem_map_of_mem (List.mem_append_right _ (List.mem_singleton_self packet))
  order := by
    rw [requests, created]
    exact traced.order_offers offers
  dated := by
    rw [requests]
    intro request member
    rcases List.mem_append.1 member with old | new
    · exact (traced.dated request (List.mem_append_left _ old)).append _
    · rw [List.mem_singleton.1 new]
      exact traced.dated_offers offers
  answers := by
    rw [prepared]
    exact fun answer member => (traced.answers answer member).append _
  delivered := receipts ▸ traced.delivered
  measures := measures
  counted := counted

end Offers

section Sends

variable {offered : Option Packet} {opened : List (Nat × SlotId)} (now : pipe.now = clock)
  (sends : pipe.Sends offered opened next)
include now sends

theorem createdAt_le_now : ∀ packet ∈ offered, packet.createdAt ≤ pipe.now := by
  subst now
  rintro packet member
  cases sends with
  | idle => cases member
  | admitted offers =>
    cases member
    exact traced.createdAt_le offers
  | refused offers =>
    cases member
    exact traced.createdAt_le offers

theorem send (ordered : pipe.Ordered) :
    next.Traced (log ++ offered.toList.map (clock, ·)) (clock + 1) := by
  subst now
  cases sends with
  | idle =>
    rw [Option.toList_none, List.map_nil, List.append_nil]
    exact { traced with past := fun offer member => Nat.lt_succ_of_lt (traced.past offer member) }
  | @admitted packet source cycles offers policy =>
    obtain ⟨held, -, -, -⟩ := offers.after
    have access := offers.access ordered.regular
    let later := pipe.admitting source packet
      (Clock.edge pipe.now cycles pipe.component.config.clockPeriod)
    have admitted : later.admitted = pipe.admitted ++ [packet] := by
      simp only [later, Pipeline.admitted, admitting, SecureModule.admitting, Gate.withRequest,
        List.map_append, List.map_cons, List.map_nil, List.append_assoc]
    have none_held : later.requester.peer.held = none := held
    refine traced.offer offers ?_ rfl rfl rfl (traced.measures.issue offers) ?_
    · rw [admitted, none_held, Option.toList_none, List.append_nil]
    · rw [admitted, ← AdmissionStats.record_among access, ← traced.counted]
      rfl
  | @refused packet source offers =>
    exact traced.offer offers rfl rfl rfl rfl (traced.measures.reject offers) traced.counted

end Sends

end Traced

theorem assemble_traced (config : SecureModuleConfig) (memory : MemoryConfig)
    (workload : Workload) : Traced (.assemble (SecureModule.fresh config)
      (Recorded.blank (RequestGenerator.fresh workload))
      (Recorded.blank (MemoryModel.idle memory))) [] 0 where
  past := nofun
  numbered := nofun
  order := rfl
  dated := nofun
  answers := nofun
  delivered := nofun
  measures := .blank workload
  counted := rfl

end Pipeline

end GatedMemory
