import GatedMemory.Proofs.SecureModule.Contract

set_option autoImplicit false

namespace GatedMemory

variable {ρ μ : Type}

namespace SecureModuleConfig

variable {config : SecureModuleConfig}

/-- When the check of a request is over that was admitted at this tick. A command without a policy
is never admitted. -/
def checkEnd (config : SecureModuleConfig) (admission : Nat × Packet) : Nat :=
  Clock.edge admission.1 ((config.holdCycles admission.2.command.kind).getD 0) config.clockPeriod

/-- When a request leaves, if it may not leave before the tick `free`. -/
def leaves (config : SecureModuleConfig) (free : Nat) (admission : Nat × Packet) : Nat :=
  max (config.checkEnd admission) free

/-- The ticks at which the admitted requests leave, if none may leave before the tick `free`. -/
def departures (config : SecureModuleConfig) : Nat → List (Nat × Packet) → List (Nat × Packet)
  | _, [] => []
  | free, admission :: later =>
    (config.leaves free admission, admission.2) ::
      departures config (config.leaves free admission + config.clockPeriod) later

/-- The tick from which on another request may leave after these. -/
def freeAfter (config : SecureModuleConfig) (free : Nat) (admitted : List (Nat × Packet)) : Nat :=
  admitted.foldl (fun free admission => config.leaves free admission + config.clockPeriod) free

theorem holdCycles_pos {kind : AccessKind} {cycles : Nat}
    (policy : config.holdCycles kind = some cycles) : 0 < cycles := by
  cases kind <;> cases policy <;> exact Nat.succ_pos _

theorem departures_append (free : Nat) (first later : List (Nat × Packet)) :
    config.departures free (first ++ later) =
      config.departures free first ++ config.departures (config.freeAfter free first) later := by
  induction first generalizing free with
  | nil => rfl
  | cons admission rest ih =>
    rw [List.cons_append, departures, departures, ih, List.cons_append]
    rfl

theorem freeAfter_concat (free : Nat) (admitted : List (Nat × Packet)) (admission : Nat × Packet) :
    config.freeAfter free (admitted ++ [admission]) =
      config.leaves (config.freeAfter free admitted) admission + config.clockPeriod := by
  rw [freeAfter, List.foldl_append]
  rfl

theorem le_of_mem_departures {free : Nat} {admitted : List (Nat × Packet)}
    {departure : Nat × Packet} (member : departure ∈ config.departures free admitted) :
    free ≤ departure.1 := by
  induction admitted generalizing free with
  | nil => cases member
  | cons admission later ih =>
    have order : free ≤ config.leaves free admission := Nat.le_max_right _ _
    rcases List.mem_cons.1 member with rfl | member
    · exact order
    · have after := ih member
      omega

/-- Checks that are over at the same edge: the second request leaves a cycle later. -/
example : departures { clockPeriod := 3 } 0 [(4, .read 0 0 0), (4, .write 1 64 0)] =
    [(18, .read 0 0 0), (21, .write 1 64 0)] := rfl

/-- These requests have left by the schedule, and no other leaves before the clock edge to come. -/
structure Forwarded (config : SecureModuleConfig) (admitted receipts : List (Nat × Packet))
    (edge : Nat) : Prop where
  inside : receipts.length ≤ admitted.length
  sent : config.departures 0 (admitted.take receipts.length) = receipts
  free : config.freeAfter 0 (admitted.take receipts.length) ≤ edge
  next : ∀ admission ∈ admitted[receipts.length]?,
    edge ≤ config.leaves (config.freeAfter 0 (admitted.take receipts.length)) admission

theorem forwarded_nil (config : SecureModuleConfig) (edge : Nat) :
    config.Forwarded [] [] edge where
  inside := Nat.le_refl _
  sent := rfl
  free := Nat.zero_le _
  next := nofun

namespace Forwarded

variable {admitted receipts : List (Nat × Packet)} {edge : Nat} {admission : Nat × Packet}
  (forwarded : config.Forwarded admitted receipts edge)
include forwarded

/-- A request is admitted whose check lasts until the coming edge at least. -/
theorem enter (lasts : edge ≤ config.checkEnd admission) :
    config.Forwarded (admitted ++ [admission]) receipts edge := by
  have inside := forwarded.inside
  refine ⟨?_, ?_, ?_, ?_⟩
  · rw [List.length_append]
    exact Nat.le_add_right_of_le inside
  · rw [List.take_append_of_le_length inside]
    exact forwarded.sent
  · rw [List.take_append_of_le_length inside]
    exact forwarded.free
  · rw [List.take_append_of_le_length inside]
    intro found member
    -- the new request is the next to leave only if all others have left
    by_cases before : receipts.length < admitted.length
    · rw [List.getElem?_append_left before] at member
      exact forwarded.next found member
    · obtain same : receipts.length = admitted.length := by omega
      rw [same, List.getElem?_concat_length] at member
      cases member
      exact Nat.le_trans lasts (Nat.le_max_left _ _)

/-- The next request leaves at the edge, as its check is over. -/
theorem leave (next : admitted[receipts.length]? = some admission)
    (ended : config.checkEnd admission ≤ edge) :
    config.Forwarded admitted (receipts ++ [(edge, admission.2)]) (edge + config.clockPeriod) := by
  have now : config.leaves (config.freeAfter 0 (admitted.take receipts.length)) admission = edge :=
    Nat.le_antisymm (Nat.max_le.2 ⟨ended, forwarded.free⟩) (forwarded.next admission next)
  obtain ⟨inside, -⟩ := List.getElem?_eq_some_iff.1 next
  have taken : admitted.take (receipts ++ [(edge, admission.2)]).length =
      admitted.take receipts.length ++ [admission] := by
    rw [List.length_append, List.length_singleton, List.take_add_one, next]
    rfl
  have free : config.freeAfter 0 (admitted.take (receipts ++ [(edge, admission.2)]).length) =
      edge + config.clockPeriod := by
    rw [taken, freeAfter_concat, now]
  refine ⟨?_, ?_, Nat.le_of_eq free, ?_⟩
  · rw [List.length_append]
    exact inside
  · rw [taken, departures_append, forwarded.sent]
    simp only [departures, now]
  · rw [free]
    exact fun _ _ => Nat.le_max_right _ _

/-- No request leaves at the edge, as none is there or its check lasts longer. -/
theorem skip (lasts : ∀ admission ∈ admitted[receipts.length]?,
      edge + config.clockPeriod ≤ config.checkEnd admission) :
    config.Forwarded admitted receipts (edge + config.clockPeriod) where
  inside := forwarded.inside
  sent := forwarded.sent
  free := Nat.le_add_right_of_le forwarded.free
  next admission member := Nat.le_trans (lasts admission member) (Nat.le_max_left _ _)

/-- Before the coming edge, the requests that have left are those that leave by then. -/
theorem eq_filter {limit : Nat} (past : ∀ receipt ∈ receipts, receipt.1 ≤ limit)
    (before : limit < edge) :
    receipts = (config.departures 0 admitted).filter fun departure => departure.1 ≤ limit := by
  have parts := config.departures_append 0 (admitted.take receipts.length)
    (admitted.drop receipts.length)
  rw [List.take_append_drop, forwarded.sent] at parts
  have later : ∀ departure ∈ config.departures
      (config.freeAfter 0 (admitted.take receipts.length)) (admitted.drop receipts.length),
      edge ≤ departure.1 := by
    intro departure member
    cases left : admitted.drop receipts.length with
    | nil =>
      rw [left] at member
      cases member
    | cons admission others =>
      have next : admission ∈ admitted[receipts.length]? := by
        rw [← List.head?_drop, left]
        rfl
      have order := forwarded.next admission next
      rw [left] at member
      rcases List.mem_cons.1 member with rfl | member
      · exact order
      · have after := le_of_mem_departures member
        omega
  have kept : receipts.filter (fun departure => departure.1 ≤ limit) = receipts :=
    List.filter_eq_self.2 fun receipt member => decide_eq_true (past receipt member)
  have none : (config.departures (config.freeAfter 0 (admitted.take receipts.length))
      (admitted.drop receipts.length)).filter (fun departure => departure.1 ≤ limit) = [] := by
    refine List.filter_eq_nil_iff.2 fun departure member => ?_
    have order := later departure member
    simp only [decide_eq_true_eq]
    omega
  rw [parts, List.filter_append, kept, none, List.append_nil]

end Forwarded

end SecureModuleConfig

theorem Session.Waits.checkEnd_eq {config : SecureModuleConfig} {admission : Nat × Packet}
    {ticket : Ticket} (waits : Session.Waits config admission ticket) :
    config.checkEnd admission = ticket.readyAt := by
  obtain ⟨cycles, policy, readyAt⟩ := waits
  rw [SecureModuleConfig.checkEnd, policy, readyAt]
  rfl

/-- Memories of this kind take every request, and stay of this kind. -/
structure RequestSink.Welcomes [RequestSink μ] (kind : μ → Prop) : Prop where
  offer : ∀ memory, kind memory → ∀ packet now, ∃ memory',
    RequestSink.offer packet now memory = (.accepted, memory') ∧ kind memory'
  responseRetry : ∀ memory, kind memory → kind (RequestSink.responseRetry memory)

theorem ScriptedMemory.welcomes :
    RequestSink.Welcomes fun memory : ScriptedMemory => memory.accepting = true where
  offer memory accepting packet now := by
    simp only [RequestSink.offer, accepting, ↓reduceIte]
    exact ⟨_, rfl, rfl⟩
  responseRetry memory accepting := accepting

namespace SessionOp

/-- It lets no time pass, and memory has not refused anything. -/
def Immediate (kind : μ → Prop) : SessionOp ρ μ → Prop
  | .request _ | .response _ | .responseRetry => True
  | .change _ memory => kind memory
  | .start | .stop | .requestRetry | .fire | .wait _ => False

/-- The module goes on, and memory has not refused anything. -/
def Calm (kind : μ → Prop) : SessionOp ρ μ → Prop
  | .fire | .wait _ => True
  | op => op.Immediate kind

end SessionOp

namespace Session

variable {config : SecureModuleConfig} {kind : μ → Prop} {session : Session ρ μ}
  {tickets : List Ticket} {edges : List (Nat × SecureEvent)} {edge : Nat}

/-- A session that is on schedule, with `edge` for the clock edge to come; the driver is scheduled
for it once it is among the `edges`. -/
structure OnSchedule (config : SecureModuleConfig) (kind : μ → Prop) (session : Session ρ μ)
    (tickets : List Ticket) (edges : List (Nat × SecureEvent)) (edge : Nat) : Prop where
  configured : session.rig.component.config = config
  sized : session.rig.component.gate.requests.capacity = config.requestCapacity
  timed : session.rig.component.gate.Timed SecureEvent.checkOver session.rig.events tickets edges
  ranked : session.rig.events.Ranked SecureEvent.priority
  priority : session.rig.component.driver.priority = Priority.clock
  running : session.rig.component.driver.stopped = false
  unblocked : session.rig.component.gate.towardMemory.blocked = false
  welcoming : kind session.rig.memory.peer
  requests : session.rig.memory.taken ++
    session.rig.component.gate.requests.items.map QueuedRequest.packet =
      session.admitted.map Prod.snd
  waits : List.Forall₂ (Waits config)
    (session.admitted.drop session.rig.memory.taken.length) tickets
  past : ∀ receipt ∈ session.rig.memory.receipts, receipt.1 ≤ session.rig.now
  forwarded : config.Forwarded session.admitted session.rig.memory.receipts edge
  grid : config.clockPeriod ∣ edge
  soon : edge ≤ Clock.edge session.rig.now 1 config.clockPeriod

namespace OnSchedule

section

variable (onSchedule : OnSchedule config kind session tickets edges edge)
include onSchedule

/-- If the oldest request may not leave at the edge, its check lasts a cycle longer at least. -/
theorem lasts_of_unready
    (late : ∀ ticket ∈ session.rig.component.gate.unready tickets, edge < ticket.readyAt)
    (unready : session.rig.component.gate.readyHead? = none) : ∀ admission ∈
      session.admitted[session.rig.memory.receipts.length]?,
        edge + config.clockPeriod ≤ config.checkEnd admission := by
  intro admission next
  have length := session.rig.memory.length_taken
  obtain ⟨inside, -⟩ := List.getElem?_eq_some_iff.1 next
  have count := congrArg List.length onSchedule.requests
  simp only [List.length_append, List.length_map] at count
  obtain ⟨head, rest, items⟩ := List.exists_cons_of_length_pos
    (show 0 < session.rig.component.gate.requests.items.length by omega)
  obtain ⟨admission', ticket, found, -, member, slot, waits⟩ := exists_admission
    onSchedule.requests onSchedule.waits onSchedule.timed.tracks items
  rw [length] at found
  obtain rfl : admission' = admission := Option.some.inj (found.symm.trans next)
  have waiting : session.rig.component.gate.slots.isReady head.slot = false := by
    refine Bool.eq_false_iff.2 fun ready => ?_
    have oldest : session.rig.component.gate.requests.items.head? = some head := by
      rw [items]
      rfl
    rw [Gate.readyHead?_eq_some_iff.2 ⟨oldest, ready⟩] at unready
    cases unready
  have above := late ticket (Gate.mem_unready.2 ⟨member, slot ▸ waiting⟩)
  rw [← waits.checkEnd_eq] at above
  -- both ticks are clock edges
  have apart : config.clockPeriod ∣ config.checkEnd admission' - edge :=
    Nat.dvd_sub (Clock.dvd_edge _ _ _) onSchedule.grid
  have cycle := Nat.le_of_dvd (Nat.sub_pos_of_lt above) apart
  omega

section

variable (period : 0 < config.clockPeriod) (now : session.rig.now = edge)
include period now

theorem next_soon :
    edge + config.clockPeriod ≤ Clock.edge session.rig.now 1 config.clockPeriod := by
  have next : Clock.edge edge 1 config.clockPeriod = edge + config.clockPeriod := by
    rw [Clock.edge_of_dvd period onSchedule.grid, Nat.one_mul]
  exact Nat.le_of_eq (now ▸ next.symm)

theorem depart {head : QueuedRequest} {rest : List QueuedRequest} {memory : Recorded μ}
    (items : session.rig.component.gate.requests.items = head :: rest)
    (ready : session.rig.component.gate.slots.isReady head.slot = true)
    (noted : memory = session.rig.memory.note memory.peer
      (.offered session.rig.now head.packet .accepted)) (welcoming : kind memory.peer) :
    OnSchedule config kind
      { session with rig := { session.rig with
        component := { session.rig.component with
          gate := session.rig.component.gate.dropHead head rest }
        memory } }
      tickets.tail edges (edge + config.clockPeriod) := by
  obtain ⟨admission, ticket, found, packet, member, slot, waits⟩ := exists_admission
    onSchedule.requests onSchedule.waits onSchedule.timed.tracks items
  have ended : config.checkEnd admission ≤ edge := by
    rw [waits.checkEnd_eq, ← now]
    exact onSchedule.timed.matured ticket member (slot ▸ ready)
  have taken : memory.taken = session.rig.memory.taken ++ [head.packet] := by
    rw [noted, Recorded.taken_note]
    rfl
  have receipts : memory.receipts = session.rig.memory.receipts ++ [(edge, admission.2)] := by
    rw [noted, Recorded.receipts_note, now, packet]
    rfl
  rw [session.rig.memory.length_taken] at found
  refine { onSchedule with
    timed := onSchedule.timed.depart items ready
    welcoming := welcoming
    requests := ?_
    waits := ?_
    past := ?_
    forwarded := ?_
    grid := Nat.dvd_add onSchedule.grid (Nat.dvd_refl _)
    soon := onSchedule.next_soon period now }
  · have requests := onSchedule.requests
    rw [items, List.map_cons] at requests
    simp only [Gate.dropHead, taken, List.append_assoc, List.singleton_append]
    exact requests
  · have waits := List.forall₂_drop 1 onSchedule.waits
    rw [List.drop_drop, List.drop_one] at waits
    simp only [taken, List.length_append, List.length_singleton]
    exact waits
  · intro receipt present
    simp only [receipts] at present
    rcases List.mem_append.1 present with old | new
    · exact onSchedule.past receipt old
    · rw [List.mem_singleton.1 new]
      exact Nat.le_of_eq now.symm
  · simp only [receipts]
    exact onSchedule.forwarded.leave found ended

/-- At the edge the oldest request goes to memory if its check is over. -/
theorem send [RequestSink μ] (welcomes : RequestSink.Welcomes kind)
    (late : ∀ ticket ∈ session.rig.component.gate.unready tickets, edge < ticket.readyAt) :
    ∃ tickets, OnSchedule config kind { session with rig := SecureModule.drainRequest session.rig }
      tickets edges (edge + config.clockPeriod) := by
  have outcomes := session.rig.component.gate.sendRequest_cases session.rig.memory session.rig.now
  unfold SecureModule.drainRequest
  generalize session.rig.component.gate.sendRequest session.rig.memory session.rig.now = outcome
    at outcomes
  cases outcomes with
  | idle unable =>
    have unready : session.rig.component.gate.readyHead? = none := by
      rcases unable with blocked | unready
      · rw [onSchedule.unblocked] at blocked
        cases blocked
      · exact unready
    exact ⟨tickets, { onSchedule with
      forwarded := onSchedule.forwarded.skip (onSchedule.lasts_of_unready late unready)
      grid := Nat.dvd_add onSchedule.grid (Nat.dvd_refl _)
      soon := onSchedule.next_soon period now }⟩
  | @taken head rest memory' _ items ready offer =>
    obtain ⟨noted, answer⟩ := Recorded.offerRequest_eq offer
    obtain ⟨welcomed, answer', kept⟩ :=
      welcomes.offer _ onSchedule.welcoming head.packet session.rig.now
    obtain ⟨-, same⟩ := Prod.mk.inj (answer.symm.trans answer')
    exact ⟨tickets.tail, onSchedule.depart period now items ready noted (same ▸ kept)⟩
  | @refused head rest back memory' _ items ready offer =>
    obtain ⟨-, answer⟩ := Recorded.offerRequest_eq offer
    obtain ⟨welcomed, answer', -⟩ :=
      welcomes.offer _ onSchedule.welcoming head.packet session.rig.now
    cases (Prod.mk.inj (answer.symm.trans answer')).1

end

theorem deliver [ResponseSink ρ] : OnSchedule config kind
    { session with rig := SecureModule.drainResponse session.rig } tickets edges edge := by
  have outcomes :=
    session.rig.component.gate.sendResponse_cases session.rig.requester session.rig.now
  unfold SecureModule.drainResponse
  generalize session.rig.component.gate.sendResponse session.rig.requester session.rig.now = outcome
    at outcomes
  cases outcomes with
  | idle => exact onSchedule
  | taken => exact { onSchedule with timed := onSchedule.timed.congr rfl rfl rfl }
  | refused => exact { onSchedule with timed := onSchedule.timed.congr rfl rfl rfl }

theorem settleRequestRetry [ResponseSink ρ] : OnSchedule config kind
    { session with rig := SecureModule.settleRequestRetry session.rig } tickets edges edge := by
  unfold SecureModule.settleRequestRetry
  cases owed : session.rig.component.gate.towardRequester.owesRetry <;>
  · simp only [Gate.takeRequestRetry, owed, Bool.false_eq_true, ↓reduceIte]
    exact { onSchedule with timed := onSchedule.timed.congr rfl rfl rfl }

theorem settleResponseRetry [RequestSink μ] (welcomes : RequestSink.Welcomes kind) :
    OnSchedule config kind
      { session with rig := SecureModule.settleResponseRetry session.rig } tickets edges edge := by
  have settled : OnSchedule config kind { session with rig := { session.rig with
      component := { session.rig.component with
        gate := session.rig.component.gate.takeResponseRetry.2 } } } tickets edges edge :=
    { onSchedule with timed := onSchedule.timed.congr rfl rfl rfl }
  unfold SecureModule.settleResponseRetry
  cases owed : session.rig.component.gate.towardMemory.owesRetry with
  | false =>
    simp only [Gate.takeResponseRetry, owed, Bool.false_eq_true, ↓reduceIte] at settled ⊢
    exact settled
  | true =>
    simp only [Gate.takeResponseRetry, owed, ↓reduceIte] at settled ⊢
    have taken : (RequestSink.responseRetry session.rig.memory).taken =
        session.rig.memory.taken :=
      (Recorded.taken_note _ _ _).trans (List.append_nil _)
    have receipts : (RequestSink.responseRetry session.rig.memory).receipts =
        session.rig.memory.receipts :=
      (Recorded.receipts_note _ _ _).trans (List.append_nil _)
    refine { settled with
      welcoming := welcomes.responseRetry _ onSchedule.welcoming, requests := ?_, waits := ?_
      past := ?_, forwarded := ?_ }
    · simp only [taken]
      exact settled.requests
    · simp only [taken]
      exact settled.waits
    · simp only [receipts]
      exact settled.past
    · simp only [receipts]
      exact settled.forwarded

theorem edgeWork [ResponseSink ρ] [RequestSink μ] (period : 0 < config.clockPeriod)
    (welcomes : RequestSink.Welcomes kind) (now : session.rig.now = edge)
    (late : ∀ ticket ∈ session.rig.component.gate.unready tickets, edge < ticket.readyAt) :
    ∃ tickets, OnSchedule config kind { session with rig := SecureModule.edgeWork session.rig }
      tickets edges (edge + config.clockPeriod) := by
  have fired : OnSchedule config kind { session with rig := SecureModule.edgeFired session.rig }
      tickets edges edge := { onSchedule with }
  obtain ⟨tickets, sent⟩ := fired.send period now welcomes late
  exact ⟨tickets, (sent.deliver.settleRequestRetry).settleResponseRetry welcomes⟩

theorem elapse {events : EventQueue SecureEvent} {left : List (Nat × SecureEvent)}
    (timed : session.rig.component.gate.Timed SecureEvent.checkOver events tickets left)
    (ranked : events.Ranked SecureEvent.priority) (elapsed : session.rig.now ≤ events.now) :
    OnSchedule config kind { session with rig := { session.rig with events } } tickets left edge :=
  { onSchedule with
    timed := timed
    ranked := ranked
    past := fun receipt member => Nat.le_trans (onSchedule.past receipt member) elapsed
    soon := Nat.le_trans onSchedule.soon (Clock.edge_le_edge _ elapsed (Nat.le_refl _)) }

/-- A request arrives. Its check lasts until the coming edge at least. -/
theorem request [ResponseSink ρ] [RequestSink μ] (period : 0 < config.clockPeriod)
    (fits : config.requestCapacity + 1 < 2 ^ 32) (packet : Packet) :
    Gives Overflow (session.perform (.request packet)) fun next =>
      next.rig.now = session.rig.now ∧
      next.rig.component.driver = session.rig.component.driver ∧
      ∃ tickets, OnSchedule config kind next tickets edges edge := by
  obtain ⟨rig, admitted, answered⟩ := session
  obtain rfl := onSchedule.configured
  have fits' : rig.component.gate.requests.capacity + 1 < 2 ^ 32 := by
    rw [onSchedule.sized]
    exact fits
  cases policy : rig.component.config.holdCycles packet.command.kind with
  | none =>
    simp only [perform, Intermediary.request, SecureModule.request,
      SecureModuleConfig.holdCycles?, policy, ok_bind]
    exact .ok ⟨rfl, rfl, tickets, onSchedule⟩
  | some cycles =>
    by_cases room : rig.component.gate.requests.items.length < rig.component.gate.requests.capacity
    · apply (SecureModule.request_of_lt rig policy period room).bind
      rintro _ rfl
      have future : rig.events.now ≤ Clock.edge rig.now cycles rig.component.config.clockPeriod :=
        Clock.le_edge period
      have length := congrArg List.length onSchedule.requests
      simp only [List.length_append, List.length_map] at length
      have inside : rig.memory.taken.length ≤ admitted.length := by omega
      have lasts : edge ≤ rig.component.config.checkEnd (rig.now, packet) := by
        rw [SecureModuleConfig.checkEnd, policy]
        exact Nat.le_trans onSchedule.soon (Clock.edge_le_edge _ (Nat.le_refl _)
          (SecureModuleConfig.holdCycles_pos policy))
      have standard : Priority.standard = SecureEvent.priority
        (.checkOver rig.component.gate.slots.acquire.1) := rfl
      refine .ok ⟨rfl, rfl, _, { onSchedule with
        timed := onSchedule.timed.enter fits' room future packet
        ranked := onSchedule.ranked.schedule standard _
        requests := ?_
        waits := waits_enter onSchedule.waits inside ⟨cycles, policy, rfl⟩
        forwarded := onSchedule.forwarded.enter lasts }⟩
      have requests := onSchedule.requests
      simp only [SecureModule.admitting, Gate.withRequest, List.map_append, List.map_cons,
        List.map_nil, ← requests, List.append_assoc]
    · apply (SecureModule.request_of_le rig policy period (Nat.not_lt.1 room)).bind
      rintro _ rfl
      exact .ok ⟨rfl, rfl, tickets,
        { onSchedule with timed := onSchedule.timed.turnAway fits' }⟩

theorem response [ResponseSink ρ] [RequestSink μ] (packet : Packet) :
    Gives Overflow (session.perform (.response packet)) fun next =>
      next.rig.now = session.rig.now ∧
      next.rig.component.driver = session.rig.component.driver ∧
      OnSchedule config kind next tickets edges edge := by
  by_cases room : session.rig.component.gate.responses.items.length <
      session.rig.component.gate.responses.capacity
  · simp only [perform, Intermediary.response, SecureModule.response,
      Gate.admitResponse_of_lt room, ok_bind]
    exact .ok ⟨rfl, rfl, { onSchedule with timed := onSchedule.timed.congr rfl rfl rfl }⟩
  · simp only [perform, Intermediary.response, SecureModule.response,
      Gate.admitResponse_of_le (Nat.not_lt.1 room), ok_bind]
    exact .ok ⟨rfl, rfl, { onSchedule with timed := onSchedule.timed.congr rfl rfl rfl }⟩

/-- What lets no time pass leaves the driver as it is. -/
theorem immediate [ResponseSink ρ] [RequestSink μ] (period : 0 < config.clockPeriod)
    (fits : config.requestCapacity + 1 < 2 ^ 32) {op : SessionOp ρ μ}
    (immediate : op.Immediate kind) : Gives Overflow (session.perform op) fun next =>
      next.rig.now = session.rig.now ∧
      next.rig.component.driver = session.rig.component.driver ∧
      ∃ tickets, OnSchedule config kind next tickets edges edge := by
  cases op with
  | request packet => exact onSchedule.request period fits packet
  | response packet =>
    exact (onSchedule.response packet).mono fun next kept => ⟨kept.1, kept.2.1, tickets, kept.2.2⟩
  | responseRetry =>
    exact .ok ⟨rfl, rfl, tickets, { onSchedule with timed := onSchedule.timed.congr rfl rfl rfl }⟩
  | change requester memory =>
    exact .ok ⟨rfl, rfl, tickets, { onSchedule with welcoming := immediate }⟩
  | start | stop | requestRetry | fire | wait => exact immediate.elim

end

theorem awaitingEdge (period : 0 < config.clockPeriod)
    (onSchedule : OnSchedule config kind session tickets [] edge)
    (next : Clock.edge session.rig.now 1 config.clockPeriod = edge) :
    OnSchedule config kind { session with rig := SecureModule.awaitingEdge session.rig } tickets
      [(edge, .edge)] edge := by
  obtain ⟨rig, admitted, answered⟩ := session
  obtain rfl := onSchedule.configured
  subst next
  have future : rig.events.now ≤ Clock.edge rig.now 1 rig.component.config.clockPeriod :=
    Clock.le_edge period
  have priority : rig.component.driver.priority = SecureEvent.priority .edge :=
    onSchedule.priority
  exact { onSchedule with
    timed := onSchedule.timed.schedule future rig.component.driver.priority .edge
    ranked := onSchedule.ranked.schedule priority _ }

section

variable {entry : EventEntry SecureEvent} {rest : List (EventEntry SecureEvent)}
  (onSchedule : OnSchedule config kind session tickets [(edge, .edge)] edge)
  (pending : session.rig.events.pending = entry :: rest)
include onSchedule pending

theorem fire_check [ResponseSink ρ] [RequestSink μ] {ticket : Ticket}
    (waits : ticket ∈ session.rig.component.gate.unready tickets)
    (completes : ticket.completion SecureEvent.checkOver = (entry.tick, entry.payload)) :
    Gives Overflow (Intermediary.handle entry.payload
        { session.rig with events := session.rig.events.after entry rest }) fun result =>
      result.1 = none ∧ result.2.events = session.rig.events.after entry rest ∧
        OnSchedule config kind { session with rig := result.2 } tickets [(edge, .edge)] edge := by
  have elapsed : session.rig.now ≤ entry.tick := onSchedule.timed.awaits.now_le pending
  have slot : entry.payload = .checkOver ticket.slot := (congrArg Prod.snd completes).symm
  simp only [slot, Intermediary.handle, SecureModule.handle, ok_bind]
  exact .ok ⟨rfl, rfl, { onSchedule with
    timed := onSchedule.timed.finish pending waits completes
    ranked := onSchedule.ranked.fire pending
    past := fun receipt member => Nat.le_trans (onSchedule.past receipt member) elapsed
    soon := Nat.le_trans onSchedule.soon (Clock.edge_le_edge _ elapsed (Nat.le_refl _)) }⟩

/-- The checks that end at the edge have ended before it. -/
theorem lt_readyAt (payload : entry.payload = .edge) :
    ∀ ticket ∈ session.rig.component.gate.unready tickets, entry.tick < ticket.readyAt := by
  have urgent : ∀ slot, SecureEvent.priority (.checkOver slot) <
      SecureEvent.priority entry.payload := by
    intro slot
    rw [payload]
    change Priority.standard < Priority.clock
    decide
  exact onSchedule.timed.lt_readyAt pending onSchedule.ranked urgent

/-- The edge comes, and the driver is scheduled for the next one. -/
theorem fire_edge [ResponseSink ρ] [RequestSink μ] (period : 0 < config.clockPeriod)
    (welcomes : RequestSink.Welcomes kind)
    (fires : (entry.tick, entry.payload) = (edge, .edge)) :
    Gives Overflow (Intermediary.handle entry.payload
        { session.rig with events := session.rig.events.after entry rest }) fun result =>
      result.1 = none ∧ result.2.now = entry.tick ∧ result.2.events.size = rest.length + 1 ∧
        ∃ tickets, OnSchedule config kind { session with rig := result.2 } tickets
          [(edge + config.clockPeriod, .edge)] (edge + config.clockPeriod) := by
  obtain ⟨rfl, payload⟩ := Prod.mk.inj fires
  let before : Session ρ μ :=
    { session with rig := { session.rig with events := session.rig.events.after entry rest } }
  have fired : OnSchedule config kind before tickets [] entry.tick :=
    onSchedule.elapse (onSchedule.timed.fire pending (.of_eq (by rw [payload])))
      (onSchedule.ranked.fire pending) (onSchedule.timed.awaits.now_le pending)
  have late := onSchedule.lt_readyAt pending payload
  obtain ⟨tickets, worked⟩ := fired.edgeWork period welcomes rfl late
  have events := SecureModule.edgeWork_events before.rig
  have driver := SecureModule.edgeWork_driver before.rig
  rw [payload]
  simp only [Intermediary.handle, SecureModule.handle, SecureModule.onEdge_eq]
  change Gives Overflow (SecureModule.scheduleEdge (SecureModule.edgeWork before.rig) >>= _) _
  generalize SecureModule.edgeWork before.rig = rig at worked events driver ⊢
  have free : rig.component.driver.canSchedule = true := by
    rw [driver]
    exact RepeatingEvent.canSchedule_occurred onSchedule.running
  have now : rig.now = entry.tick := congrArg EventQueue.now events
  have next : Clock.edge rig.now 1 config.clockPeriod = entry.tick + config.clockPeriod := by
    rw [now, Clock.edge_of_dvd period onSchedule.grid, Nat.one_mul]
  have size : (SecureModule.awaitingEdge rig).events.size = rest.length + 1 := by
    rw [SecureModule.awaitingEdge, EventQueue.size_scheduled, events]
    rfl
  apply (SecureModule.scheduleEdge_of_free (worked.configured.symm ▸ period) free).bind
  rintro _ rfl
  exact .ok ⟨rfl, now, size, tickets, worked.awaitingEdge period next⟩

/-- Whatever fires next, the session stays on schedule, and less is left to do. -/
theorem handle [ResponseSink ρ] [RequestSink μ] (period : 0 < config.clockPeriod)
    (welcomes : RequestSink.Welcomes kind) :
    Gives Overflow (Intermediary.handle entry.payload
        { session.rig with events := session.rig.events.after entry rest }) fun result =>
      result.1 = none ∧ result.2.now = entry.tick ∧ ∃ tickets later,
        OnSchedule config kind { session with rig := result.2 } tickets [(later, .edge)] later ∧
        ∀ limit, entry.tick ≤ limit → limit + 1 - later + result.2.events.size <
          limit + 1 - edge + session.rig.events.size := by
  have size : session.rig.events.size = rest.length + 1 := by rw [EventQueue.size, pending]; rfl
  -- the edge moves on by a period, and each check fires once
  rcases onSchedule.timed.fires pending with fires | ⟨ticket, waits, completes⟩
  · obtain ⟨rfl, -⟩ := Prod.mk.inj (List.mem_singleton.1 fires)
    apply (onSchedule.fire_edge pending period welcomes (List.mem_singleton.1 fires)).mono
    rintro result ⟨none, now, same, tickets, kept⟩
    exact ⟨none, now, tickets, _, kept, fun limit within => by omega⟩
  · apply (onSchedule.fire_check pending waits completes).mono
    rintro result ⟨none, events, kept⟩
    have fewer : result.2.events.size = rest.length := by rw [events]; rfl
    exact ⟨none, congrArg EventQueue.now events, tickets, edge, kept,
      fun limit within => by omega⟩

end

end OnSchedule

def AwaitsStart (config : SecureModuleConfig) (kind : μ → Prop) (tick : Nat)
    (session : Session ρ μ) : Prop :=
  session.rig.now = tick ∧ session.rig.component.driver = .idle Priority.clock ∧
    ∃ tickets, OnSchedule config kind session tickets [] (Clock.edge tick 1 config.clockPeriod)

def Goes (config : SecureModuleConfig) (kind : μ → Prop) (session : Session ρ μ) : Prop :=
  ∃ tickets edge, OnSchedule config kind session tickets [(edge, .edge)] edge

/-- A module that goes on, with a bound on what is left to do by a limit. -/
def GoesUntil (config : SecureModuleConfig) (kind : μ → Prop) (session : Session ρ μ)
    (limit measure : Nat) (rig : Rig SecureModule (Recorded ρ) (Recorded μ) SecureEvent) : Prop :=
  rig.now ≤ limit ∧ ∃ tickets edge,
    OnSchedule config kind { session with rig } tickets [(edge, .edge)] edge ∧
      limit + 1 - edge + rig.events.size ≤ measure

/-- The fuel lasts: there is an event at least, and the edge is not in the past. -/
theorem Goes.goesUntil_horizon (goes : Goes config kind session) {limit : Nat}
    (future : session.rig.now ≤ limit) :
    ∃ measure < session.rig.events.horizon limit,
      GoesUntil config kind session limit measure session.rig := by
  obtain ⟨tickets, edge, onSchedule⟩ := goes
  refine ⟨_, Nat.lt_succ_self _, future, tickets, edge, onSchedule, ?_⟩
  have awaits := onSchedule.timed.awaits
  have order : session.rig.events.now ≤ edge := by
    have coming : (edge, SecureEvent.edge) ∈ session.rig.events.agenda :=
      awaits.agenda.mem_iff.2 (List.mem_append_left _ List.mem_cons_self)
    obtain ⟨entry, member, same⟩ := List.mem_map.1 coming
    obtain ⟨rfl, -⟩ := Prod.mk.inj same
    exact awaits.sound.future entry member
  have some_event : 0 < session.rig.events.size := by
    rw [awaits.size_eq]
    exact Nat.succ_pos _
  have some_tick : 0 < limit + 1 - session.rig.events.now :=
    Nat.sub_pos_of_lt (Nat.lt_succ_of_le future)
  have ticks := Nat.le_mul_of_pos_right (limit + 1 - session.rig.events.now) some_event
  have events := Nat.le_mul_of_pos_left session.rig.events.size some_tick
  rw [Nat.mul_assoc]
  omega

section

variable [ResponseSink ρ] [RequestSink μ]

theorem opening_awaitsStart {memory : μ} (welcoming : kind memory) (config : SecureModuleConfig)
    (requester : ρ) (tick : Nat) :
    Gives Overflow ((opening config requester memory).perform (.wait tick))
      (AwaitsStart config kind tick) := by
  refine .ok ⟨Nat.zero_max tick, rfl, [], ?_⟩
  exact {
    configured := rfl
    sized := rfl
    timed := (Gate.timed_empty SecureEvent.checkOver config.requestCapacity
      config.responseCapacity).wait nofun
    ranked := nofun
    priority := rfl
    running := rfl
    unblocked := rfl
    welcoming := welcoming
    requests := rfl
    waits := .nil
    past := nofun
    forwarded := SecureModuleConfig.forwarded_nil config _
    grid := Clock.dvd_edge _ _ _
    soon := Clock.edge_le_edge _ (Nat.le_max_right 0 tick) (Nat.le_refl _) }

namespace AwaitsStart

variable {tick : Nat} (awaits : AwaitsStart config kind tick session)
  (period : 0 < config.clockPeriod)
include awaits period

theorem immediate (fits : config.requestCapacity + 1 < 2 ^ 32) {op : SessionOp ρ μ}
    (immediate : op.Immediate kind) :
    Gives Overflow (session.perform op) (AwaitsStart config kind tick) := by
  obtain ⟨now, idle, tickets, onSchedule⟩ := awaits
  apply (onSchedule.immediate period fits immediate).mono
  rintro next ⟨now', driver, kept⟩
  exact ⟨now'.trans now, driver.trans idle, kept⟩

theorem start : Gives Overflow (session.perform .start) (Goes config kind) := by
  obtain ⟨now, idle, tickets, onSchedule⟩ := awaits
  have free : session.rig.component.driver.canSchedule = true := by rw [idle]; rfl
  have next : Clock.edge session.rig.now 1 config.clockPeriod =
      Clock.edge tick 1 config.clockPeriod := by rw [now]
  have scheduled := SecureModule.scheduleEdge_of_free
    (onSchedule.configured.symm ▸ period : 0 < session.rig.component.config.clockPeriod) free
  apply scheduled.bind
  rintro _ rfl
  exact .ok ⟨tickets, _, onSchedule.awaitingEdge period next⟩

end AwaitsStart

theorem goesUntil_lowers (period : 0 < config.clockPeriod) (welcomes : RequestSink.Welcomes kind)
    (session : Session ρ μ) (limit : Nat) :
    Rig.Lowers limit (GoesUntil config kind session limit) := by
  rintro measure rig entry rest ⟨-, tickets, edge, kept, bound⟩ pending within
  apply (kept.handle pending period welcomes).mono
  rintro ⟨failure, next⟩ ⟨none, now, tickets, later, kept, lower⟩
  have less := lower limit within
  exact ⟨none, _, Nat.lt_of_lt_of_le less bound, now ▸ within, tickets, later, kept, Nat.le_refl _⟩

namespace Goes

variable (goes : Goes config kind session) (period : 0 < config.clockPeriod)
  (welcomes : RequestSink.Welcomes kind)
include goes period welcomes

/-- As long as memory refuses nothing, the module goes on. -/
theorem calm (fits : config.requestCapacity + 1 < 2 ^ 32) {op : SessionOp ρ μ}
    (calm : op.Calm kind) : Gives Overflow (session.perform op) (Goes config kind) := by
  obtain ⟨tickets, edge, onSchedule⟩ := goes
  cases op with
  | fire =>
    unfold perform Rig.step
    cases next : session.rig.events.takeNext with
    | none => exact .ok ⟨tickets, edge, onSchedule⟩
    | some fired =>
      obtain ⟨entry, rest, pending, rfl⟩ := EventQueue.takeNext_eq_some_iff.1 next
      simp only [bind_assoc]
      apply (onSchedule.handle pending period welcomes).bind
      rintro ⟨failure, rig⟩ ⟨-, -, tickets, later, kept, -⟩
      exact .ok ⟨tickets, later, kept⟩
  | wait tick =>
    simp only [perform]
    split
    case isTrue idle =>
      exact .ok ⟨tickets, edge, onSchedule.elapse (onSchedule.timed.wait idle) onSchedule.ranked
        (Nat.le_max_left _ _)⟩
    case isFalse => exact .ok ⟨tickets, edge, onSchedule⟩
  | start | stop | requestRetry => exact calm.elim
  | request | response | responseRetry | change =>
    refine (onSchedule.immediate period fits ?_).mono ?_
    · exact calm
    · rintro next ⟨-, -, tickets, kept⟩
      exact ⟨tickets, edge, kept⟩

/-- Once everything up to a limit is done, the requests that have left are those that leave by
then. -/
theorem advance {limit : Nat} (future : session.rig.now ≤ limit) :
    Gives Overflow (session.rig.advance limit) fun result =>
      result.1.failure = none ∧ result.2.memory.receipts =
        (config.departures 0 session.admitted).filter fun departure => departure.1 ≤ limit := by
  have lowers := goesUntil_lowers period welcomes session limit
  obtain ⟨measure, enough, goes⟩ := goes.goesUntil_horizon future
  apply (lowers.advanceWithin goes enough).mono
  rintro ⟨trace, rig⟩ ⟨none, left, final, ⟨now, tickets, edge, kept, -⟩, idle, rfl⟩
  have beyond : limit < edge :=
    kept.timed.awaits.lt_of_idle idle (List.mem_append_left _ List.mem_cons_self)
  exact ⟨none, kept.forwarded.eq_filter
    (fun receipt member => Nat.le_trans (kept.past receipt member) now) beyond⟩

end Goes

end

/-- A module before a memory that takes every request is started at a tick and goes on. Whatever is
admitted from that tick on, memory gets the requests in the order and at the ticks of the schedule:
once everything up to a limit is done, exactly those that leave by then. -/
theorem forwards_on_schedule [ResponseSink ρ] [RequestSink μ]
    (welcomes : RequestSink.Welcomes kind) (config : SecureModuleConfig)
    (valid : config.validate = .ok ()) (fits : config.requestCapacity + 1 < 2 ^ 32) (requester : ρ)
    (memory : μ) (welcoming : kind memory) (tick : Nat) (early later : List (SessionOp ρ μ))
    (immediate : ∀ op ∈ early, op.Immediate kind) (calm : ∀ op ∈ later, op.Calm kind) :
    SecureModule.build config = .ok (opening config requester memory).rig.component ∧
    Gives Overflow ((.wait tick :: early ++ .start :: later).foldlM perform
        (opening config requester memory)) fun session =>
      ∀ limit, session.rig.now ≤ limit → Gives Overflow (session.rig.advance limit) fun result =>
        result.1.failure = none ∧ result.2.memory.receipts =
          (config.departures 0 session.admitted).filter fun departure => departure.1 ≤ limit := by
  have period := (SecureModuleConfig.validate_eq_ok_iff.1 valid).2.2
  refine ⟨SecureModule.build_eq_ok valid, ?_⟩
  rw [List.cons_append, List.foldlM_cons]
  refine (opening_awaitsStart welcoming config requester tick).bind fun session awaits => ?_
  rw [List.foldlM_append]
  -- before the start no time passes, and after it the driver keeps the schedule
  have waits : Gives Overflow (early.foldlM perform session) (AwaitsStart config kind tick) :=
    Gives.foldlM_of_mem (fun session op member awaits =>
      awaits.immediate period fits (immediate op member)) awaits
  refine waits.bind fun session awaits => ?_
  rw [List.foldlM_cons]
  refine (awaits.start period).bind fun session goes => ?_
  have goes : Gives Overflow (later.foldlM perform session) (Goes config kind) :=
    Gives.foldlM_of_mem (fun session op member goes =>
      goes.calm period welcomes fits (calm op member)) goes
  exact goes.mono fun session goes limit future => goes.advance period welcomes future

/-- A read and a write are admitted together, at a tick that is no clock edge. By tick twenty only
the read has left. -/
theorem forwards_on_schedule_two_at_once :
    SecureModuleConfig.validate { clockPeriod := 3 } = .ok () ∧ 16 + 1 < 2 ^ 32 ∧
    ({} : ScriptedMemory).accepting = true ∧
    Yields (List.foldlM perform
        (opening { clockPeriod := 3 } ({} : ScriptedRequester) ({} : ScriptedMemory))
        [.wait 4, .request (.read 0 0 0), .start, .request (.write 1 64 0), .fire]) fun session =>
      session.admitted = [(4, .read 0 0 0), (4, .write 1 64 0)] ∧
      Yields (session.rig.advance 20) fun result =>
        result.1.failure = none ∧ result.2.memory.receipts = [(18, .read 0 0 0)] := by
  have immediate : ∀ op ∈ [(.request (.read 0 0 0) : SessionOp ScriptedRequester ScriptedMemory)],
      op.Immediate fun memory => memory.accepting = true := by
    simp only [List.mem_singleton, forall_eq, SessionOp.Immediate]
  have calm : ∀ op ∈ [(.request (.write 1 64 0) : SessionOp ScriptedRequester ScriptedMemory),
      .fire], op.Calm fun memory => memory.accepting = true := by
    simp only [List.mem_cons, List.not_mem_nil, or_false, forall_eq_or_imp, forall_eq,
      SessionOp.Calm, SessionOp.Immediate, and_self]
  obtain ⟨-, forwards⟩ := forwards_on_schedule ScriptedMemory.welcomes
    { clockPeriod := 3 } rfl (by decide) {} {} rfl 4 _ _ immediate calm
  obtain ⟨session, ran, told⟩ := forwards.yields_of_isOk rfl
  obtain rfl := Except.ok.inj ran
  have departures := told 20 (by decide)
  exact ⟨rfl, by decide, rfl, _, ran, rfl, departures.yields_of_isOk (by decide +kernel)⟩

end Session

end GatedMemory
