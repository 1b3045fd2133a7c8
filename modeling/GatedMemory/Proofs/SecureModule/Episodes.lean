import GatedMemory.Proofs.Episodes
import GatedMemory.Proofs.SecureModule.Contract

set_option autoImplicit false

namespace GatedMemory

variable {ρ μ α : Type}

/-- The retry that is owed. -/
def FlowFlags.dues (flags : FlowFlags) : List Exchange :=
  if flags.owesRetry then [.retried] else []

theorem FlowFlags.dues_congr {flags flags' : FlowFlags}
    (same : flags'.owesRetry = flags.owesRetry) : flags'.dues = flags.dues := by
  rw [dues, dues, same]

theorem FlowFlags.count_dues (flags : FlowFlags) :
    flags.dues.count .retried = if flags.owesRetry then 1 else 0 := by
  cases owed : flags.owesRetry <;> simp [dues, owed]

namespace Gate

variable [ResponseSink ρ] [RequestSink μ] {gate sent : Gate} {exchanges : List Exchange}

def settled (gate : Gate) : Gate :=
  gate.takeRequestRetry.2.takeResponseRetry.2

/-- What offering the oldest request does to memory and to the gate. -/
inductive OffersRequest (μ : Type) [RequestSink μ] (gate : Gate) : List Exchange → Gate → Prop where
  | idle : OffersRequest μ gate [] gate
  | taken {head : QueuedRequest} {rest : List QueuedRequest} {now : Nat}
    (unblocked : gate.towardMemory.blocked = false)
    (items : gate.requests.items = head :: rest) (ready : gate.slots.isReady head.slot = true) :
    OffersRequest μ gate [.offered now head.packet .accepted] (gate.dropHead head rest)
  | refused {head : QueuedRequest} {rest : List QueuedRequest} {back : Packet} {now : Nat}
    {memory memory' : μ} (unblocked : gate.towardMemory.blocked = false)
    (items : gate.requests.items = head :: rest) (ready : gate.slots.isReady head.slot = true)
    (answer : RequestSink.offer head.packet now memory = (.rejected back, memory')) :
    OffersRequest μ gate [.offered now head.packet (.rejected back)]
      (gate.keepHead { head with packet := back } rest)

/-- What offering the oldest response does to the requester and to the gate. -/
inductive OffersResponse (ρ : Type) [ResponseSink ρ] (gate : Gate) :
    List Exchange → Gate → Prop where
  | idle : OffersResponse ρ gate [] gate
  | taken {head : Packet} {rest : List Packet} {now : Nat}
    (unblocked : gate.towardRequester.blocked = false)
    (items : gate.responses.items = head :: rest) :
    OffersResponse ρ gate [.offered now head .accepted]
      { gate with responses := { gate.responses with items := rest } }
  | refused {head back : Packet} {rest : List Packet} {now : Nat} {requester requester' : ρ}
    (unblocked : gate.towardRequester.blocked = false)
    (items : gate.responses.items = head :: rest)
    (answer : ResponseSink.offer head now requester = (.rejected back, requester')) :
    OffersResponse ρ gate [.offered now head (.rejected back)]
      { gate with
        responses := { gate.responses with items := back :: rest }
        towardRequester := { gate.towardRequester with blocked := true } }

theorem sendRequest_offers (gate : Gate) (memory : Recorded μ) (now : Nat) :
    ∃ exchanges, (gate.sendRequest memory now).2.2.log = memory.log ++ exchanges ∧
      gate.OffersRequest μ exchanges (gate.sendRequest memory now).2.1 := by
  have outcomes := gate.sendRequest_cases memory now
  generalize gate.sendRequest memory now = outcome at outcomes
  cases outcomes with
  | idle => exact ⟨[], (List.append_nil _).symm, .idle⟩
  | taken unblocked items ready offer =>
    obtain ⟨noted, -⟩ := Recorded.offerRequest_eq offer
    exact ⟨_, congrArg Recorded.log noted, .taken unblocked items ready⟩
  | refused unblocked items ready offer =>
    obtain ⟨noted, answer⟩ := Recorded.offerRequest_eq offer
    exact ⟨_, congrArg Recorded.log noted, .refused unblocked items ready answer⟩

theorem sendResponse_offers (gate : Gate) (requester : Recorded ρ) (now : Nat) :
    ∃ exchanges, (gate.sendResponse requester now).2.2.log = requester.log ++ exchanges ∧
      gate.OffersResponse ρ exchanges (gate.sendResponse requester now).2.1 := by
  have outcomes := gate.sendResponse_cases requester now
  generalize gate.sendResponse requester now = outcome at outcomes
  cases outcomes with
  | idle => exact ⟨[], (List.append_nil _).symm, .idle⟩
  | taken unblocked items offer =>
    obtain ⟨noted, -⟩ := Recorded.offerResponse_eq offer
    exact ⟨_, congrArg Recorded.log noted, .taken unblocked items⟩
  | refused unblocked items offer =>
    obtain ⟨noted, answer⟩ := Recorded.offerResponse_eq offer
    exact ⟨_, congrArg Recorded.log noted, .refused unblocked items answer⟩

/-- Offering a request leaves the responses, and who is owed a retry. -/
theorem OffersRequest.frame (offers : gate.OffersRequest μ exchanges sent) :
    sent.responses = gate.responses ∧ sent.towardRequester = gate.towardRequester ∧
      sent.towardMemory.owesRetry = gate.towardMemory.owesRetry ∧
      sent.requests.capacity = gate.requests.capacity := by
  cases offers <;> exact ⟨rfl, rfl, rfl, rfl⟩

/-- Offering a response leaves the requests, and who is owed a retry. -/
theorem OffersResponse.frame (offers : gate.OffersResponse ρ exchanges sent) :
    sent.requests = gate.requests ∧ sent.slots = gate.slots ∧
      sent.towardMemory = gate.towardMemory ∧
      sent.towardRequester.owesRetry = gate.towardRequester.owesRetry ∧
      sent.responses.capacity = gate.responses.capacity := by
  cases offers <;> exact ⟨rfl, rfl, rfl, rfl, rfl⟩

theorem OffersRequest.count_retried (offers : gate.OffersRequest μ exchanges sent) :
    exchanges.count .retried = 0 := by
  cases offers <;> rfl

theorem OffersResponse.count_retried (offers : gate.OffersResponse ρ exchanges sent) :
    exchanges.count .retried = 0 := by
  cases offers <;> rfl

end Gate

namespace SecureModule

section

variable [ResponseSink ρ] [RequestSink μ] (rig : Rig SecureModule (Recorded ρ) (Recorded μ) α)

omit [RequestSink μ] in
theorem settleRequestRetry_tells :
    (settleRequestRetry rig).component =
        { rig.component with gate := rig.component.gate.takeRequestRetry.2 } ∧
      (settleRequestRetry rig).requester.log =
        rig.requester.log ++ rig.component.gate.towardRequester.dues ∧
      (settleRequestRetry rig).memory = rig.memory := by
  cases owed : rig.component.gate.towardRequester.owesRetry <;>
    simp only [settleRequestRetry, Gate.takeRequestRetry, FlowFlags.dues, owed, Bool.false_eq_true,
      ↓reduceIte, List.append_nil, and_self]
  exact ⟨trivial, rfl, trivial⟩

omit [ResponseSink ρ] in
theorem settleResponseRetry_tells :
    (settleResponseRetry rig).component =
        { rig.component with gate := rig.component.gate.takeResponseRetry.2 } ∧
      (settleResponseRetry rig).memory.log =
        rig.memory.log ++ rig.component.gate.towardMemory.dues ∧
      (settleResponseRetry rig).requester = rig.requester := by
  cases owed : rig.component.gate.towardMemory.owesRetry <;>
    simp only [settleResponseRetry, Gate.takeResponseRetry, FlowFlags.dues, owed,
      Bool.false_eq_true, ↓reduceIte, List.append_nil, and_self]
  exact ⟨trivial, rfl, trivial⟩

omit [ResponseSink ρ] [RequestSink μ] in
/-- Scheduling the driver leaves all but the driver and the events. -/
theorem scheduleEdge_frame [Embed SecureEvent α] {rig : Rig SecureModule ρ μ α}
    (period : 0 < rig.component.config.clockPeriod) : Gives Overflow (scheduleEdge rig) fun next =>
      next.component.config = rig.component.config ∧ next.component.gate = rig.component.gate ∧
        next.requester = rig.requester ∧ next.memory = rig.memory := by
  cases free : rig.component.driver.canSchedule with
  | false =>
    apply (scheduleEdge_of_busy period free).mono
    rintro _ rfl
    exact ⟨rfl, rfl, rfl, rfl⟩
  | true =>
    apply (scheduleEdge_of_free period free).mono
    rintro _ rfl
    exact ⟨rfl, rfl, rfl, rfl⟩

/-- At an edge a request is offered, then a response, and then the retries are told. -/
theorem edgeWork_offers : ∃ requests responses sent delivered,
    rig.component.gate.OffersRequest μ requests sent ∧
    sent.OffersResponse ρ responses delivered ∧
    (edgeWork rig).component.config = rig.component.config ∧
    (edgeWork rig).component.gate = delivered.settled ∧
    (edgeWork rig).requester.log = rig.requester.log ++
      (responses ++ rig.component.gate.towardRequester.dues) ∧
    (edgeWork rig).memory.log = rig.memory.log ++
      (requests ++ rig.component.gate.towardMemory.dues) := by
  obtain ⟨requests, asked, sends⟩ := rig.component.gate.sendRequest_offers rig.memory rig.now
  obtain ⟨responses, answered, delivers⟩ := Gate.sendResponse_offers
    (rig.component.gate.sendRequest rig.memory rig.now).2.1 rig.requester rig.now
  obtain ⟨-, requester, memory, -⟩ := sends.frame
  obtain ⟨-, -, memory', requester', -⟩ := delivers.frame
  let offered := drainResponse (drainRequest (edgeFired rig))
  obtain ⟨component, told, kept⟩ := settleRequestRetry_tells offered
  obtain ⟨component', told', kept'⟩ := settleResponseRetry_tells (settleRequestRetry offered)
  refine ⟨requests, responses, _, _, sends, delivers, ?_, ?_, ?_, ?_⟩
  · change (settleResponseRetry (settleRequestRetry offered)).component.config = _
    rw [component', component]
    rfl
  · change (settleResponseRetry (settleRequestRetry offered)).component.gate = _
    rw [component', component]
    rfl
  · change (settleResponseRetry (settleRequestRetry offered)).requester.log = _
    rw [kept', told, ← FlowFlags.dues_congr (requester'.trans (congrArg _ requester)),
      ← List.append_assoc, ← answered]
    rfl
  · change (settleResponseRetry (settleRequestRetry offered)).memory.log = _
    rw [told', component, kept,
      ← FlowFlags.dues_congr ((congrArg FlowFlags.owesRetry memory').trans memory),
      ← List.append_assoc, ← asked]
    rfl

end

end SecureModule

def Call.CanIdle : Call SecureEvent → Prop
  | .start | .stop | .request _ | .rangeChange | .functional _ | .atomic _ => True
  | _ => False

namespace Gate

/-- What a call on the module does: to its gate, to the packet of the caller, to the requester and
to memory. -/
inductive Deals (ρ μ : Type) [ResponseSink ρ] [RequestSink μ] (gate : Gate) :
    Call SecureEvent → Option Packet → List Exchange → List Exchange → Gate → Prop where
  | idle {call : Call SecureEvent} (idle : call.CanIdle) :
    Deals ρ μ gate call none [] [] gate
  | admitted {packet : Packet}
    (room : gate.requests.items.length < gate.requests.capacity) :
    Deals ρ μ gate (.request packet) none [] [] (gate.withRequest packet)
  | refused {packet : Packet}
    (full : gate.requests.capacity ≤ gate.requests.items.length) :
    Deals ρ μ gate (.request packet) (some packet) [] [] gate.withoutRequest
  | answered {packet : Packet}
    (room : gate.responses.items.length < gate.responses.capacity) :
    Deals ρ μ gate (.response packet) none [] [] (gate.withResponse packet)
  | declined {packet : Packet}
    (full : gate.responses.capacity ≤ gate.responses.items.length) :
    Deals ρ μ gate (.response packet) (some packet) [] [] gate.withoutResponse
  | reopened {requests : List Exchange} {sent : Gate}
    (sends : gate.reopened.OffersRequest μ requests sent) :
    Deals ρ μ gate .requestRetry none [] requests sent
  | unblocked : Deals ρ μ gate .responseRetry none [] [] gate.unblockRequester
  | checkOver {slot : SlotId} :
    Deals ρ μ gate (.event (.checkOver slot)) none [] [] (gate.finishWait slot).2
  | edge {requests responses : List Exchange} {sent delivered : Gate}
    (sends : gate.OffersRequest μ requests sent)
    (delivers : sent.OffersResponse ρ responses delivered) :
    Deals ρ μ gate (.event .edge) none (responses ++ gate.towardRequester.dues)
      (requests ++ gate.towardMemory.dues) delivered.settled

/-- A response is admitted only if there is room for it. -/
theorem Deals.room_of_response {ρ μ : Type} [ResponseSink ρ] [RequestSink μ] {gate next : Gate}
    {packet : Packet} {requester memory : List Exchange}
    (deals : gate.Deals ρ μ (.response packet) none requester memory next) :
    gate.responses.items.length < gate.responses.capacity := by
  cases deals with
  | idle idle => exact idle.elim
  | answered room => exact room

end Gate

/-- Each call on the module, between peers that watch, does what one of the cases says. -/
theorem SecureModule.call_deals [ResponseSink ρ] [RequestSink μ]
    {rig : Rig SecureModule (Recorded ρ) (Recorded μ) SecureEvent}
    (period : 0 < rig.component.config.clockPeriod) (requester : rig.requester.log = [])
    (memory : rig.memory.log = []) (call : Call SecureEvent) :
    Gives Overflow (rig.call call) fun result =>
      result.2.component.config = rig.component.config ∧
      rig.component.gate.Deals ρ μ call result.1 result.2.requester.log result.2.memory.log
        result.2.component.gate := by
  have silent {returned : Option Packet} {gate : Gate}
      (deals : rig.component.gate.Deals ρ μ call returned [] [] gate) :
      rig.component.gate.Deals ρ μ call returned rig.requester.log rig.memory.log gate := by
    rwa [requester, memory]
  cases call with
  | start =>
    refine (scheduleEdge_frame period).bind fun next ⟨config, gate, left, right⟩ => .ok ⟨config, ?_⟩
    rw [gate, left, right]
    exact silent (.idle trivial)
  | stop => exact .ok ⟨rfl, silent (.idle trivial)⟩
  | request packet =>
    change Gives Overflow (request packet rig >>= _) _
    cases policy : rig.component.config.holdCycles packet.command.kind with
    | none =>
      simp only [request, SecureModuleConfig.holdCycles?, policy, ok_bind]
      exact .ok ⟨rfl, silent (.idle trivial)⟩
    | some cycles =>
      by_cases room : rig.component.gate.requests.items.length <
          rig.component.gate.requests.capacity
      · apply (request_of_lt rig policy period room).bind
        rintro _ rfl
        exact .ok ⟨rfl, silent (.admitted room)⟩
      · have full := Nat.not_lt.1 room
        apply (request_of_le rig policy period full).bind
        rintro _ rfl
        exact .ok ⟨rfl, silent (.refused full)⟩
  | response packet =>
    change Gives Overflow (.ok (response packet rig) >>= _) _
    by_cases room : rig.component.gate.responses.items.length <
        rig.component.gate.responses.capacity
    · simp only [response, Gate.admitResponse_of_lt room]
      exact .ok ⟨rfl, silent (.answered room)⟩
    · have full := Nat.not_lt.1 room
      simp only [response, Gate.admitResponse_of_le full]
      exact .ok ⟨rfl, silent (.declined full)⟩
  | requestRetry =>
    obtain ⟨requests, asked, sends⟩ :=
      rig.component.gate.reopened.sendRequest_offers rig.memory rig.now
    have deals : Gate.Deals ρ μ _ _ _ _ _ _ := .reopened sends
    rw [memory, List.nil_append] at asked
    rw [← asked, ← requester] at deals
    exact .ok ⟨rfl, deals⟩
  | responseRetry => exact .ok ⟨rfl, silent .unblocked⟩
  | event event =>
    cases event with
    | edge =>
      obtain ⟨requests, responses, sent, delivered, sends, delivers, config, gate, told, asked⟩ :=
        edgeWork_offers rig
      have period' : 0 < (edgeWork rig).component.config.clockPeriod := config ▸ period
      have deals := Gate.Deals.edge sends delivers
      rw [requester, List.nil_append] at told
      rw [memory, List.nil_append] at asked
      simp only [Rig.call, Intermediary.handle, handle, onEdge_eq, bind_assoc]
      apply (scheduleEdge_frame period').bind
      rintro next ⟨config', gate', left, right⟩
      rw [← told, ← asked, ← gate, ← left, ← right, ← gate'] at deals
      exact .ok ⟨config'.trans config, deals⟩
    | checkOver slot => exact .ok ⟨rfl, silent .checkOver⟩
  | rangeChange => exact .ok ⟨rfl, silent (.idle trivial)⟩
  | functional packet => exact .ok ⟨rfl, silent (.idle trivial)⟩
  | atomic packet => exact .ok ⟨rfl, silent (.idle trivial)⟩

namespace Episode

/-- What a call on the module comes to: its gate afterwards. -/
def Leaves (ρ μ : Type) [ResponseSink ρ] [RequestSink μ]
    (episode : Episode SecureModule SecureEvent) (gate : Gate) : Prop :=
  episode.component.gate.Deals ρ μ episode.call episode.returned episode.requester episode.memory
    gate

end Episode

namespace Diary

variable [ResponseSink ρ] [RequestSink μ] {config : SecureModuleConfig}
  {invariant : List (Episode SecureModule SecureEvent) → Gate → Prop}

/-- What each case of a call keeps true of the episodes and of the gate, every diary of a valid
module keeps true; and its configuration stays. -/
theorem module_keeps_configured (valid : config.validate = .ok ())
    (keeps : ∀ past episode gate, invariant past episode.component.gate →
      episode.Leaves ρ μ gate → invariant (past ++ [episode]) gate)
    (opening : invariant [] (.empty config.requestCapacity config.responseCapacity))
    (requester : ρ) (memory : μ) (happenings : List (Happening SecureEvent ρ μ)) :
    Gives Overflow (happenings.foldlM live (blank (SecureModule.fresh config) requester memory))
      fun diary => diary.rig.component.config = config ∧
        invariant diary.episodes diary.rig.component.gate := by
  have period := (SecureModuleConfig.validate_eq_ok_iff.1 valid).2.2
  let kept (past : List (Episode SecureModule SecureEvent)) (module : SecureModule) : Prop :=
    module.config = config ∧ invariant past module.gate
  have step : ∀ (diary : Diary SecureModule SecureEvent ρ μ) call,
      kept diary.episodes diary.rig.component →
        Gives Overflow (diary.note call) fun next => kept next.episodes next.rig.component := by
    intro diary call holds
    let watched := diary.rig.map Recorded.blank Recorded.blank
    have period' : 0 < watched.component.config.clockPeriod := holds.1 ▸ period
    apply (SecureModule.call_deals period' rfl rfl call : Gives Overflow (watched.call call) _).bind
    rintro ⟨returned, rig⟩ ⟨same, deals⟩
    exact .ok ⟨same.trans holds.1, keeps _ _ _ holds.2 deals⟩
  exact live_keeps step happenings ⟨rfl, opening⟩

/-- What each case of a call keeps true of the episodes and of the gate, every diary of a valid
module keeps true. -/
theorem module_keeps (valid : config.validate = .ok ())
    (keeps : ∀ past episode gate, invariant past episode.component.gate →
      episode.Leaves ρ μ gate → invariant (past ++ [episode]) gate)
    (opening : invariant [] (.empty config.requestCapacity config.responseCapacity))
    (requester : ρ) (memory : μ) (happenings : List (Happening SecureEvent ρ μ)) :
    Gives Overflow (happenings.foldlM live (blank (SecureModule.fresh config) requester memory))
      fun diary => invariant diary.episodes diary.rig.component.gate :=
  (module_keeps_configured valid keeps opening requester memory happenings).mono
    fun _ holds => holds.2

end Diary

/-- One place in each queue. -/
def SecureModuleConfig.singlePlaces : SecureModuleConfig :=
  { requestCapacity := 1, responseCapacity := 1 }

/-- A module with one place in each queue, between peers that refuse everything. -/
def Diary.singlePlaces : Diary SecureModule SecureEvent ScriptedRequester ScriptedMemory :=
  blank (SecureModule.fresh .singlePlaces) { accepting := false } { accepting := false }

/-- The request and the response that the module holds are refused, and it turns away one of each;
then the peers change their minds, and ask for what they refused. -/
def Diary.singlePlaceHappenings : List (Happening SecureEvent ScriptedRequester ScriptedMemory) :=
  [.call .start, .call (.request (.read 0 0 0)), .fire, .fire, .fire, .fire, .fire,
    .call (.request (.write 1 64 0)), .call (.response (.read 8 0 0)),
    .call (.response (.read 9 0 0)), .fire, .change {} {}, .call .requestRetry,
    .call (.response (.read 9 0 0)), .call .responseRetry, .fire]

end GatedMemory
