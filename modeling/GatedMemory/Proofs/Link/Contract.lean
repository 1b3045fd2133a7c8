import GatedMemory.Proofs.Link.Order
import GatedMemory.Proofs.Refusals
import GatedMemory.Proofs.SecureModule.Contract

set_option autoImplicit false

namespace GatedMemory

variable {ρ μ : Type}

namespace LinkEvent

def requests (packets : List (Nat × LinkEvent)) : List (Nat × Packet) :=
  packets.filterMap fun packet => packet.2.request?.map (packet.1, ·)

def responses (packets : List (Nat × LinkEvent)) : List (Nat × Packet) :=
  packets.filterMap fun packet => packet.2.response?.map (packet.1, ·)

variable {packets : List (Nat × LinkEvent)}

theorem requests_append (before after : List (Nat × LinkEvent)) :
    requests (before ++ after) = requests before ++ requests after :=
  List.filterMap_append

theorem responses_append (before after : List (Nat × LinkEvent)) :
    responses (before ++ after) = responses before ++ responses after :=
  List.filterMap_append

end LinkEvent

namespace LinkConfig

def outTick (config : LinkConfig) (tick : Nat) : Nat :=
  Clock.edge tick config.latency config.clockPeriod

/-- The packet with the tick at which it comes out in place of that at which it went in. -/
def carry {β : Type} (config : LinkConfig) (packet : Nat × β) : Nat × β :=
  (config.outTick packet.1, packet.2)

theorem requests_carry (config : LinkConfig) (packets : List (Nat × LinkEvent)) :
    LinkEvent.requests (packets.map config.carry) =
      (LinkEvent.requests packets).map config.carry := by
  induction packets with
  | nil => rfl
  | cons packet rest ih =>
    rw [LinkEvent.requests] at ih ⊢
    rw [LinkEvent.requests, List.map_cons, List.filterMap_cons, List.filterMap_cons, ih]
    rcases packet with ⟨tick, _ | _⟩ <;> rfl

theorem responses_carry (config : LinkConfig) (packets : List (Nat × LinkEvent)) :
    LinkEvent.responses (packets.map config.carry) =
      (LinkEvent.responses packets).map config.carry := by
  induction packets with
  | nil => rfl
  | cons packet rest ih =>
    rw [LinkEvent.responses] at ih ⊢
    rw [LinkEvent.responses, List.map_cons, List.filterMap_cons, List.filterMap_cons, ih]
    rcases packet with ⟨tick, _ | _⟩ <;> rfl

end LinkConfig

def Exchange.offer : Exchange → Option (Nat × Packet)
  | offered tick packet _ => some (tick, packet)
  | retried => none

/-- The packets that were offered to the peer, and when, oldest first. -/
def Recorded.offers {σ : Type} (recorded : Recorded σ) : List (Nat × Packet) :=
  recorded.log.filterMap Exchange.offer

theorem Recorded.offers_note {σ : Type} (recorded : Recorded σ) (peer : σ) (exchange : Exchange) :
    (recorded.note peer exchange).offers = recorded.offers ++ exchange.offer.toList := by
  simp only [offers, note, List.filterMap_append]
  cases offer : exchange.offer <;> simp [offer]

/-- Nothing is done to a peer after a refusal until it has asked for more: `asked` tells how long
its log was each time that it asked. -/
def Unhurried (asked : List Nat) (log : List Exchange) : Prop :=
  ∀ early late exchange, early < late → late < log.length → log[early]? = some exchange →
    exchange.refused?.isSome = true → ∃ length ∈ asked, early < length ∧ length ≤ late

/-- The peer has asked since it last refused. -/
def Welcomed (asked : List Nat) (log : List Exchange) : Prop :=
  ∀ early exchange, log[early]? = some exchange → exchange.refused?.isSome = true →
    ∃ length ∈ asked, early < length ∧ length ≤ log.length

section Asking

variable {asked : List Nat} {log : List Exchange} {last : Exchange}

theorem Unhurried.concat (unhurried : Unhurried asked log) (welcomed : Welcomed asked log)
    (last : Exchange) : Unhurried asked (log ++ [last]) := by
  intro early late exchange order inside found refuses
  rw [List.length_append, List.length_singleton] at inside
  have before : early < log.length := by omega
  rw [List.getElem?_append_left before] at found
  by_cases old : late < log.length
  · exact unhurried early late exchange order old found refuses
  · obtain ⟨length, member, after, within⟩ := welcomed early exchange found refuses
    exact ⟨length, member, after, by omega⟩

theorem Unhurried.ask (unhurried : Unhurried asked log) (length : Nat) :
    Unhurried (asked ++ [length]) log := by
  intro early late exchange order inside found refuses
  obtain ⟨length, member, between⟩ := unhurried early late exchange order inside found refuses
  exact ⟨length, List.mem_append_left _ member, between⟩

theorem Welcomed.concat (welcomed : Welcomed asked log) (taken : last.refused? = none) :
    Welcomed asked (log ++ [last]) := by
  intro early exchange found refuses
  rw [List.length_append, List.length_singleton]
  by_cases old : early < log.length
  · rw [List.getElem?_append_left old] at found
    obtain ⟨length, member, after, within⟩ := welcomed early exchange found refuses
    exact ⟨length, member, after, by omega⟩
  · have inside := (List.getElem?_eq_some_iff.1 found).1
    rw [List.length_append, List.length_singleton] at inside
    obtain rfl : early = log.length := by omega
    rw [List.getElem?_concat_length] at found
    rw [← Option.some.inj found, taken] at refuses
    cases refuses

theorem welcomed_ask (asked : List Nat) (log : List Exchange) :
    Welcomed (asked ++ [log.length]) log := by
  intro early exchange found _
  have inside := (List.getElem?_eq_some_iff.1 found).1
  exact ⟨log.length, List.mem_append_right _ List.mem_cons_self, inside, Nat.le_refl _⟩

end Asking

/-- Each offer to a requester is of the oldest response that it has not taken, and comes no earlier
than the response is due. -/
def InTurn (config : LinkConfig) (responses : List (Nat × Packet)) (log : List Exchange) : Prop :=
  ∀ before tick packet delivery later, log = before ++ .offered tick packet delivery :: later →
    ∃ entered, responses[(before.filterMap Exchange.taken?).length]? = some (entered, packet) ∧
      config.outTick entered ≤ tick

namespace InTurn

variable {config : LinkConfig} {responses : List (Nat × Packet)} {log : List Exchange}

theorem enter (inTurn : InTurn config responses log) (more : List (Nat × Packet)) :
    InTurn config (responses ++ more) log := by
  intro before tick packet delivery later split
  obtain ⟨entered, found, due⟩ := inTurn before tick packet delivery later split
  have inside := (List.getElem?_eq_some_iff.1 found).1
  exact ⟨entered, (List.getElem?_append_left inside).trans found, due⟩

theorem offered (inTurn : InTurn config responses log) {entered tick : Nat} {packet : Packet}
    (oldest : responses[(log.filterMap Exchange.taken?).length]? = some (entered, packet))
    (due : config.outTick entered ≤ tick) (delivery : Delivery) :
    InTurn config responses (log ++ [.offered tick packet delivery]) := by
  intro before tick' packet' delivery' later split
  rcases concat_eq_append_cons split with ⟨-, same, rfl⟩ | ⟨later, -, earlier⟩
  · cases same
    exact ⟨entered, oldest, due⟩
  · exact inTurn before tick' packet' delivery' later earlier

end InTurn

/-- The requester has taken the responses `delivered` and waits for `waiting`. -/
structure Receives (config : LinkConfig) (asked : List Nat)
    (delivered waiting : List (Nat × Packet)) (requester : Recorded ρ) : Prop where
  taken : requester.taken = delivered.map Prod.snd
  inTurn : InTurn config (delivered ++ waiting) requester.log
  unhurried : Unhurried asked requester.log

namespace Receives

variable {config : LinkConfig} {asked : List Nat} {delivered waiting : List (Nat × Packet)}
  {requester requester' : Recorded ρ} {entered now : Nat} {packet : Packet}

theorem enter (receives : Receives config asked delivered waiting requester)
    (more : List (Nat × Packet)) :
    Receives config asked delivered (waiting ++ more) requester :=
  { receives with inTurn := by rw [← List.append_assoc]; exact receives.inTurn.enter more }

/-- The oldest response that waits is offered once it is due. -/
theorem offered [ResponseSink ρ] {delivery : Delivery}
    (receives : Receives config asked delivered ((entered, packet) :: waiting) requester)
    (welcomed : Welcomed asked requester.log) (due : config.outTick entered ≤ now)
    (offer : ResponseSink.offer packet now requester = (delivery, requester')) :
    InTurn config (delivered ++ (entered, packet) :: waiting) requester'.log ∧
      Unhurried asked requester'.log := by
  obtain ⟨noted, -⟩ := Recorded.offerResponse_eq offer
  have count : (requester.log.filterMap Exchange.taken?).length = delivered.length := by
    rw [← Recorded.taken, receives.taken, List.length_map]
  have oldest : (delivered ++ (entered, packet) :: waiting)[(requester.log.filterMap
      Exchange.taken?).length]? = some (entered, packet) := by
    rw [count, List.getElem?_append_right (Nat.le_refl _), Nat.sub_self]
    rfl
  rw [noted]
  exact ⟨receives.inTurn.offered oldest due delivery, receives.unhurried.concat welcomed _⟩

/-- The requester takes the response, and can be offered the next one. -/
theorem accept [ResponseSink ρ]
    (receives : Receives config asked delivered ((entered, packet) :: waiting) requester)
    (welcomed : Welcomed asked requester.log) (due : config.outTick entered ≤ now)
    (offer : ResponseSink.offer packet now requester = (.accepted, requester')) :
    Receives config asked (delivered ++ [(entered, packet)]) waiting requester' ∧
      Welcomed asked requester'.log := by
  obtain ⟨inTurn, unhurried⟩ := receives.offered welcomed due offer
  obtain ⟨noted, -⟩ := Recorded.offerResponse_eq offer
  refine ⟨⟨?_, ?_, unhurried⟩, ?_⟩
  · rw [noted, Recorded.taken_note, receives.taken, List.map_append]
    rfl
  · rwa [List.append_assoc]
  · rw [noted]
    exact welcomed.concat rfl

/-- The requester hands the response back, and it stays the oldest. -/
theorem refuse [ResponseSink ρ] (honest : ResponseSink.Honest ρ) {back : Packet}
    (receives : Receives config asked delivered ((entered, packet) :: waiting) requester)
    (welcomed : Welcomed asked requester.log) (due : config.outTick entered ≤ now)
    (offer : ResponseSink.offer packet now requester = (.rejected back, requester')) :
    back = packet ∧
      Receives config asked delivered ((entered, packet) :: waiting) requester' := by
  obtain ⟨inTurn, unhurried⟩ := receives.offered welcomed due offer
  obtain ⟨noted, answer⟩ := Recorded.offerResponse_eq offer
  refine ⟨honest _ _ _ _ _ answer, ?_, inTurn, unhurried⟩
  rw [noted, Recorded.taken_note, receives.taken]
  exact List.append_nil _

end Receives

/-- Of the responses that have come out of the link, the requester has taken `delivered`, and the
link keeps `held`; it keeps some exactly when the requester has refused and not asked since. -/
structure Holds (config : LinkConfig) (asked : List Nat)
    (delivered held coming : List (Nat × Packet)) (now : Nat) (blocked : Bool)
    (requester : Recorded ρ) : Prop where
  receives : Receives config asked delivered (held ++ coming) requester
  due : ∀ response ∈ held, config.outTick response.1 ≤ now
  stalls : held ≠ [] ↔ blocked = true
  welcomed : blocked = false → Welcomed asked requester.log

namespace Holds

variable {config : LinkConfig} {asked : List Nat} {delivered held coming : List (Nat × Packet)}
  {now : Nat} {blocked : Bool} {requester : Recorded ρ}

theorem pass (holds : Holds config asked delivered held coming now blocked requester)
    {later : Nat} (passed : now ≤ later) :
    Holds config asked delivered held coming later blocked requester :=
  { holds with due := fun response member => Nat.le_trans (holds.due response member) passed }

/-- A response waits behind those that the requester has refused. -/
theorem wait {response : Nat × Packet}
    (holds : Holds config asked delivered held (response :: coming) now true requester)
    (due : config.outTick response.1 ≤ now) :
    Holds config asked delivered (held ++ [response]) coming now true requester where
  receives := by
    rw [List.append_assoc]
    exact holds.receives
  due := by
    intro other member
    rcases List.mem_append.1 member with old | new
    · exact holds.due other old
    · rw [List.mem_singleton.1 new]
      exact due
  stalls := by simp
  welcomed := nofun

theorem eq_nil (holds : Holds config asked delivered held coming now false requester) :
    held = [] := by
  by_contra waiting
  exact Bool.false_ne_true (holds.stalls.1 waiting)

/-- Whatever is offered while the requester has asked: all is taken, or the rest stays. -/
theorem drain [ResponseSink ρ] (honest : ResponseSink.Honest ρ)
    (receives : Receives config asked delivered (held ++ coming) requester)
    (welcomed : Welcomed asked requester.log)
    (due : ∀ response ∈ held, config.outTick response.1 ≤ now) :
    ∃ taken kept stalled requester',
      FixedLatencyLink.offerAll now (held.map Prod.snd) requester = (stalled, requester') ∧
      held = taken ++ kept ∧ stalled = kept.map Prod.snd ∧
      Holds config asked (delivered ++ taken) kept coming now (!stalled.isEmpty) requester' := by
  induction held generalizing delivered requester with
  | nil =>
    refine ⟨[], [], [], requester, rfl, rfl, rfl, ?_⟩
    rw [List.append_nil]
    exact ⟨receives, due, by simp, fun _ => welcomed⟩
  | cons head rest ih =>
    obtain ⟨entered, packet⟩ := head
    have headDue := due _ List.mem_cons_self
    have restDue : ∀ response ∈ rest, config.outTick response.1 ≤ now :=
      fun response member => due response (List.mem_cons_of_mem _ member)
    rcases offer : ResponseSink.offer packet now requester with ⟨_ | back, requester'⟩
    · obtain ⟨received, welcome⟩ := receives.accept welcomed headDue offer
      obtain ⟨taken, kept, stalled, final, run, split, waits, holds⟩ := ih received welcome restDue
      refine ⟨(entered, packet) :: taken, kept, stalled, final, ?_, ?_, waits, ?_⟩
      · simp only [List.map_cons, FixedLatencyLink.offerAll, offer, run]
      · rw [split, List.cons_append]
      · rwa [List.append_assoc] at holds
    · obtain ⟨rfl, received⟩ := receives.refuse honest welcomed headDue offer
      refine ⟨[], (entered, back) :: rest, back :: rest.map Prod.snd, requester', ?_, rfl, rfl, ?_⟩
      · simp only [List.map_cons, FixedLatencyLink.offerAll, offer]
      · rw [List.append_nil]
        exact ⟨received, due, by simp, nofun⟩

end Holds

/-- A link between peers with records, what has entered it, and when the requester has asked. -/
structure LinkSession (ρ μ : Type) where
  rig : Rig FixedLatencyLink (Recorded ρ) (Recorded μ) LinkEvent
  /-- Requests and responses, each with the tick at which it entered, oldest first. -/
  entered : List (Nat × LinkEvent)
  /-- How much had been done to the requester each time that it asked for responses. -/
  asked : List Nat

namespace LinkSession

def opening (config : LinkConfig) (requester : ρ) (memory : μ) : LinkSession ρ μ :=
  { rig := .assemble (FixedLatencyLink.fresh config) (.blank requester) (.blank memory)
    entered := [], asked := [] }

def perform [ResponseSink ρ] [RequestSink μ] (session : LinkSession ρ μ) :
    SessionOp ρ μ → Except Fault (LinkSession ρ μ)
  | .start => do return { session with rig := ← Intermediary.start session.rig }
  | .stop => .ok { session with rig := Intermediary.windDown session.rig }
  | .request packet => do
    let (answer, rig) ← Intermediary.request packet session.rig
    match answer with
    | .ok .accepted =>
      let entered := session.entered ++ [(session.rig.now, .requestArrives packet)]
      return { session with rig, entered }
    | _ => return { session with rig }
  | .response packet => do
    let (delivery, rig) ← Intermediary.response packet session.rig
    match delivery with
    | .accepted =>
      let entered := session.entered ++ [(session.rig.now, .responseArrives packet)]
      return { session with rig, entered }
    | .rejected _ => return { session with rig }
  | .requestRetry => .ok { session with rig := Intermediary.requestRetry session.rig }
  | .responseRetry => .ok { session with
      rig := Intermediary.responseRetry session.rig
      asked := session.asked ++ [session.rig.requester.log.length] }
  | .fire => do
    let (_, rig) ← session.rig.step
    return { session with rig }
  | .wait tick =>
    if ∀ entry ∈ session.rig.events.pending, tick ≤ entry.tick then
      .ok { session with
        rig := { session.rig with events := session.rig.events.moveTo tick } }
    else .ok session
  | .change requester memory =>
    .ok { session with
      rig := { session.rig with
        requester := { session.rig.requester with peer := requester }
        memory := { session.rig.memory with peer := memory } } }

variable {config : LinkConfig} {session : LinkSession ρ μ}
  {gone travelling : List (Nat × LinkEvent)} {delivered held : List (Nat × Packet)}

/-- What every session keeps: of the packets that entered the link, `gone` have come out of it and
`travelling` are on it, each in order; of the responses that have come out, the requester has taken
`delivered`, and `held` wait for it. -/
structure Keeps (config : LinkConfig) (session : LinkSession ρ μ)
    (gone travelling : List (Nat × LinkEvent)) (delivered held : List (Nat × Packet)) : Prop where
  configured : session.rig.component.config = config
  entered : session.entered = gone ++ travelling
  sound : session.rig.events.Sound
  standard : session.rig.events.Ranked fun _ => Priority.standard
  agenda : session.rig.events.agenda = travelling.map config.carry
  past : ∀ packet ∈ travelling, packet.1 ≤ session.rig.now
  offers : session.rig.memory.offers = (LinkEvent.requests gone).map config.carry
  responses : LinkEvent.responses gone = delivered ++ held
  stalled : session.rig.component.stalled = held.map Prod.snd
  holds : Holds config session.asked delivered held (LinkEvent.responses travelling)
    session.rig.now session.rig.component.responsesBlocked session.rig.requester

theorem opening_keeps (config : LinkConfig) (requester : ρ) (memory : μ) :
    Keeps config (opening config requester memory) [] [] [] [] where
  configured := rfl
  entered := rfl
  sound := EventQueue.sound_empty
  standard := EventQueue.ranked_empty
  agenda := rfl
  past := nofun
  offers := rfl
  responses := rfl
  stalled := rfl
  holds := {
    receives := {
      taken := rfl
      inTurn := by
        intro before tick packet delivery later split
        have empty : [] = before ++ .offered tick packet delivery :: later := split
        simp at empty
      unhurried := by
        intro early late exchange _ inside
        exact absurd inside (Nat.not_lt_zero late) }
    due := nofun
    stalls := by
      constructor
      · intro some_held
        exact absurd rfl some_held
      · intro blocked
        cases blocked
    welcomed := by
      intro _ early exchange found
      exact absurd found (Option.some_ne_none exchange).symm }

namespace Keeps

theorem arrivalTick_eq (keeps : Keeps config session gone travelling delivered held) :
    FixedLatencyLink.arrivalTick session.rig = config.outTick session.rig.now := by
  rw [FixedLatencyLink.arrivalTick, keeps.configured]
  rfl

/-- Whatever is on the link comes out no later than what enters it now. -/
theorem tick_le (keeps : Keeps config session gone travelling delivered held)
    {other : EventEntry LinkEvent} (member : other ∈ session.rig.events.pending) :
    other.tick ≤ config.outTick session.rig.now := by
  have listed : (other.tick, other.payload) ∈ session.rig.events.agenda :=
    List.mem_map.2 ⟨other, member, rfl⟩
  rw [keeps.agenda] at listed
  obtain ⟨packet, present, same⟩ := List.mem_map.1 listed
  have tick : config.outTick packet.1 = other.tick := congrArg Prod.fst same
  rw [← tick]
  exact Clock.edge_le_edge _ (keeps.past packet present) (Nat.le_refl _)

/-- A packet enters the link, and comes out after all that are on it. -/
theorem enter (keeps : Keeps config session gone travelling delivered held)
    (period : 0 < config.clockPeriod) (event : LinkEvent) :
    Keeps config { session with
        rig := FixedLatencyLink.carrying session.rig event
        entered := session.entered ++ [(session.rig.now, event)] }
      gone (travelling ++ [(session.rig.now, event)]) delivered held := by
  have due := keeps.arrivalTick_eq
  have future : session.rig.events.now ≤ FixedLatencyLink.arrivalTick session.rig := by
    rw [due]
    exact Clock.le_edge period
  have last : ∀ other ∈ session.rig.events.pending,
      other.tick ≤ FixedLatencyLink.arrivalTick session.rig ∧
        other.priority ≤ Priority.standard := by
    intro other member
    rw [due]
    exact ⟨keeps.tick_le member, Int.le_of_eq (keeps.standard other member)⟩
  refine { keeps with
    entered := ?_, sound := ?_, standard := ?_, agenda := ?_, past := ?_, holds := ?_ }
  · rw [keeps.entered, List.append_assoc]
  · exact EventQueue.scheduled_sound keeps.sound future
  · exact keeps.standard.schedule rfl _
  · rw [List.map_append, ← keeps.agenda]
    refine (EventQueue.agenda_scheduled_of_last keeps.sound last).trans ?_
    rw [due]
    rfl
  · intro packet member
    rcases List.mem_append.1 member with old | new
    · exact keeps.past packet old
    · rw [List.mem_singleton.1 new]
      exact Nat.le_refl _
  · rw [LinkEvent.responses_append]
    refine { keeps.holds with receives := ?_ }
    rw [← List.append_assoc]
    exact keeps.holds.receives.enter _

section Fire

variable {entry : EventEntry LinkEvent} {rest : List (EventEntry LinkEvent)}

/-- The event that fires brings out the oldest packet on the link, when it is due. -/
theorem exists_head (keeps : Keeps config session gone travelling delivered held)
    (pending : session.rig.events.pending = entry :: rest) :
    ∃ tick left, travelling = (tick, entry.payload) :: left ∧ entry.tick = config.outTick tick := by
  have agenda := keeps.agenda
  rw [EventQueue.agenda_eq_cons pending] at agenda
  obtain ⟨⟨tick, event⟩, left, split, same, -⟩ := List.map_eq_cons_iff.1 agenda.symm
  have payload : event = entry.payload := congrArg Prod.snd same
  exact ⟨tick, left, by rw [split, payload], (congrArg Prod.fst same).symm⟩

/-- The oldest packet on the link comes out, with these consequences for the peers and for the
responses that wait. -/
theorem emerge {rig : Rig FixedLatencyLink (Recorded ρ) (Recorded μ) LinkEvent}
    {head : Nat × LinkEvent} {left : List (Nat × LinkEvent)}
    {delivered' held' : List (Nat × Packet)}
    (keeps : Keeps config session gone (head :: left) delivered held)
    (pending : session.rig.events.pending = entry :: rest)
    (events : rig.events = session.rig.events.after entry rest)
    (configured : rig.component.config = config)
    (offers : rig.memory.offers =
      session.rig.memory.offers ++ (LinkEvent.requests [head]).map config.carry)
    (responses : delivered ++ held ++ LinkEvent.responses [head] = delivered' ++ held')
    (stalled : rig.component.stalled = held'.map Prod.snd)
    (holds : Holds config session.asked delivered' held' (LinkEvent.responses left) entry.tick
      rig.component.responsesBlocked rig.requester) :
    Keeps config { session with rig } (gone ++ [head]) left delivered' held' where
  configured := configured
  entered := by rw [keeps.entered, List.append_assoc]; rfl
  sound := by rw [events]; exact EventQueue.after_sound keeps.sound pending
  standard := by rw [events]; exact keeps.standard.fire pending
  agenda := by
    have agenda := keeps.agenda
    rw [EventQueue.agenda_eq_cons pending, List.map_cons] at agenda
    rw [events]
    exact (List.cons.inj agenda).2
  past := by
    intro packet member
    have elapsed := EventQueue.now_le_of_pending keeps.sound pending
    have before := keeps.past packet (List.mem_cons_of_mem _ member)
    have now : rig.now = entry.tick := by rw [Rig.now, events]; rfl
    exact now ▸ Nat.le_trans before elapsed
  offers := by rw [offers, keeps.offers, LinkEvent.requests_append, List.map_append]
  responses := by rw [LinkEvent.responses_append, keeps.responses, responses]
  stalled := stalled
  holds := by
    have now : rig.now = entry.tick := by rw [Rig.now, events]; rfl
    rw [now]
    exact holds

/-- A request comes out: memory is offered it at once, whatever memory says. -/
theorem fireRequest [ResponseSink ρ] [RequestSink μ] {tick : Nat} {packet : Packet}
    {left : List (Nat × LinkEvent)}
    (keeps : Keeps config session gone ((tick, .requestArrives packet) :: left) delivered held)
    (pending : session.rig.events.pending = entry :: rest)
    (due : entry.tick = config.outTick tick) :
    Keeps config
      { session with
        rig := (FixedLatencyLink.handle (.requestArrives packet)
          { session.rig with events := session.rig.events.after entry rest }).2 }
      (gone ++ [(tick, .requestArrives packet)]) left delivered held := by
  have elapsed := EventQueue.now_le_of_pending keeps.sound pending
  have holds := keeps.holds.pass elapsed
  rcases offer : RequestSink.offer packet entry.tick session.rig.memory with ⟨delivery, memory'⟩
  obtain ⟨noted, -⟩ := Recorded.offerRequest_eq offer
  have offers : memory'.offers = session.rig.memory.offers ++ [(config.outTick tick, packet)] := by
    rw [← due, noted]
    exact Recorded.offers_note _ _ _
  have handled : (FixedLatencyLink.handle (.requestArrives packet)
      { session.rig with events := session.rig.events.after entry rest }).2 =
      { session.rig with memory := memory', events := session.rig.events.after entry rest } := by
    simp only [FixedLatencyLink.handle, Rig.now, EventQueue.after, offer]
    cases delivery <;> rfl
  rw [handled]
  exact keeps.emerge pending rfl keeps.configured offers (List.append_nil _) keeps.stalled holds

/-- A response comes out: it waits behind others, or the requester is offered it. -/
theorem fireResponse [ResponseSink ρ] [RequestSink μ] (honest : ResponseSink.Honest ρ) {tick : Nat}
    {packet : Packet} {left : List (Nat × LinkEvent)}
    (keeps : Keeps config session gone ((tick, .responseArrives packet) :: left) delivered held)
    (pending : session.rig.events.pending = entry :: rest)
    (due : entry.tick = config.outTick tick) :
    ∃ delivered held, Keeps config
      { session with
        rig := (FixedLatencyLink.handle (.responseArrives packet)
          { session.rig with events := session.rig.events.after entry rest }).2 }
      (gone ++ [(tick, .responseArrives packet)]) left delivered held := by
  have elapsed := EventQueue.now_le_of_pending keeps.sound pending
  have holds := keeps.holds.pass elapsed
  have coming : LinkEvent.responses ((tick, .responseArrives packet) :: left) =
      (tick, packet) :: LinkEvent.responses left := rfl
  rw [coming] at holds
  have ready : config.outTick tick ≤ entry.tick := Nat.le_of_eq due.symm
  cases blocked : session.rig.component.responsesBlocked with
  | true =>
    rw [blocked] at holds
    refine ⟨delivered, held ++ [(tick, packet)], ?_⟩
    simp only [FixedLatencyLink.handle, FixedLatencyLink.receiveResponse, blocked, ↓reduceIte]
    refine keeps.emerge pending rfl keeps.configured (List.append_nil _).symm
      (List.append_assoc _ _ _) ?_ ?_
    · rw [List.map_append, keeps.stalled]
      rfl
    · exact holds.wait ready
  | false =>
    rw [blocked] at holds
    obtain rfl := holds.eq_nil
    have receives := holds.receives
    have welcomed := holds.welcomed rfl
    rcases offer : ResponseSink.offer packet entry.tick session.rig.requester with
      ⟨_ | back, requester'⟩
    · obtain ⟨received, welcome⟩ := receives.accept welcomed ready offer
      refine ⟨delivered ++ [(tick, packet)], [], ?_⟩
      simp only [FixedLatencyLink.handle, FixedLatencyLink.receiveResponse, blocked, Rig.now,
        EventQueue.after, offer, Bool.false_eq_true, ↓reduceIte]
      refine keeps.emerge pending rfl keeps.configured (List.append_nil _).symm ?_ keeps.stalled ?_
      · rw [List.append_nil, List.append_nil]
        rfl
      · rw [blocked]
        refine ⟨received, ?_, by simp, fun _ => welcome⟩
        intro response member
        cases member
    · obtain ⟨rfl, received⟩ := receives.refuse honest welcomed ready offer
      refine ⟨delivered, [(tick, back)], ?_⟩
      simp only [FixedLatencyLink.handle, FixedLatencyLink.receiveResponse, blocked, Rig.now,
        EventQueue.after, offer, Bool.false_eq_true, ↓reduceIte]
      refine keeps.emerge pending rfl keeps.configured (List.append_nil _).symm ?_ ?_ ?_
      · rw [List.append_nil]
        rfl
      · rw [keeps.stalled]
        rfl
      · refine ⟨received, ?_, by simp, ?_⟩
        · intro response member
          rw [List.mem_singleton.1 member]
          exact ready
        · intro unblocked
          cases unblocked

end Fire

theorem fire [ResponseSink ρ] [RequestSink μ] (honest : ResponseSink.Honest ρ)
    (keeps : Keeps config session gone travelling delivered held) :
    Gives Overflow (session.perform .fire) fun next =>
      ∃ gone travelling delivered held, Keeps config next gone travelling delivered held := by
  unfold perform Rig.step
  cases next : session.rig.events.takeNext with
  | none => exact .ok ⟨gone, travelling, delivered, held, keeps⟩
  | some fired =>
    obtain ⟨entry, rest, pending, rfl⟩ := EventQueue.takeNext_eq_some_iff.1 next
    obtain ⟨tick, left, rfl, due⟩ := keeps.exists_head pending
    rcases payload : entry.payload with packet | packet
    · rw [payload] at keeps
      simp only [Intermediary.handle, ok_bind]
      exact .ok ⟨_, _, _, _, keeps.fireRequest pending due⟩
    · rw [payload] at keeps
      simp only [Intermediary.handle, ok_bind]
      obtain ⟨delivered, held, kept⟩ := keeps.fireResponse honest pending due
      exact .ok ⟨_, _, delivered, held, kept⟩

theorem retry [ResponseSink ρ] [RequestSink μ] (honest : ResponseSink.Honest ρ)
    (keeps : Keeps config session gone travelling delivered held) :
    ∃ delivered held, Keeps config
      { session with
        rig := FixedLatencyLink.offerStalled session.rig
        asked := session.asked ++ [session.rig.requester.log.length] }
      gone travelling delivered held := by
  have asked : Receives config (session.asked ++ [session.rig.requester.log.length]) delivered
      (held ++ LinkEvent.responses travelling) session.rig.requester :=
    { keeps.holds.receives with unhurried := keeps.holds.receives.unhurried.ask _ }
  obtain ⟨taken, kept, stalled, requester', run, rfl, rfl, holds⟩ :=
    Holds.drain honest asked (welcomed_ask _ _) keeps.holds.due
  refine ⟨delivered ++ taken, kept, ?_⟩
  have drained : FixedLatencyLink.offerStalled session.rig =
      { session.rig with
        requester := requester'
        component := { session.rig.component with
          stalled := kept.map Prod.snd
          responsesBlocked := !(kept.map Prod.snd).isEmpty } } := by
    simp only [FixedLatencyLink.offerStalled, keeps.stalled, run]
  rw [drained]
  exact { keeps with
    responses := by rw [keeps.responses, List.append_assoc], stalled := rfl, holds := holds }

theorem wait [ResponseSink ρ] [RequestSink μ] (tick : Nat)
    (keeps : Keeps config session gone travelling delivered held) :
    Gives Overflow (session.perform (.wait tick)) fun next =>
      Keeps config next gone travelling delivered held := by
  have elapsed : session.rig.now ≤ max session.rig.events.now tick := Nat.le_max_left _ _
  simp only [perform]
  split
  case isTrue idle =>
    exact .ok { keeps with
      sound := EventQueue.moveTo_sound keeps.sound idle
      past := fun packet member => Nat.le_trans (keeps.past packet member) elapsed
      holds := keeps.holds.pass elapsed }
  case isFalse => exact .ok keeps

end Keeps

theorem perform_keeps [ResponseSink ρ] [RequestSink μ] (honest : ResponseSink.Honest ρ)
    (period : 0 < config.clockPeriod) (session : LinkSession ρ μ) (op : SessionOp ρ μ)
    (kept : ∃ gone travelling delivered held,
      Keeps config session gone travelling delivered held) :
    Gives Overflow (session.perform op) fun next =>
      ∃ gone travelling delivered held, Keeps config next gone travelling delivered held := by
  obtain ⟨gone, travelling, delivered, held, keeps⟩ := kept
  have period' : 0 < session.rig.component.config.clockPeriod := by
    rw [keeps.configured]
    exact period
  cases op with
  | start => exact .ok ⟨gone, travelling, delivered, held, keeps⟩
  | stop => exact .ok ⟨gone, travelling, delivered, held, keeps⟩
  | request packet =>
    apply ((FixedLatencyLink.request_gives session.rig period' packet).weaken
      Allows.overflow).bind
    rintro _ rfl
    exact .ok ⟨_, _, _, _, keeps.enter period (.requestArrives packet)⟩
  | response packet =>
    apply ((FixedLatencyLink.response_gives session.rig period' packet).weaken
      Allows.overflow).bind
    rintro _ rfl
    exact .ok ⟨_, _, _, _, keeps.enter period (.responseArrives packet)⟩
  | requestRetry => exact .ok ⟨gone, travelling, delivered, held, keeps⟩
  | responseRetry =>
    obtain ⟨delivered, held, kept⟩ := keeps.retry honest
    exact .ok ⟨gone, travelling, delivered, held, kept⟩
  | fire => exact keeps.fire honest
  | wait tick =>
    exact (keeps.wait tick).mono fun next kept => ⟨gone, travelling, delivered, held, kept⟩
  | change requester memory =>
    exact .ok ⟨gone, travelling, delivered, held, { keeps with
      holds := { keeps.holds with receives := { keeps.holds.receives with } } }⟩

/-- How a link delivers, in terms of what entered it. -/
structure DeliversInOrder (config : LinkConfig) (session : LinkSession ρ μ) : Prop where
  /-- The responses that were taken, those that wait and those on the link are the ones that
  entered, in this order. -/
  responses : session.rig.requester.taken ++ session.rig.component.stalled ++
    (LinkEvent.responses session.rig.events.agenda).map Prod.snd =
      (LinkEvent.responses session.entered).map Prod.snd
  /-- Some wait exactly while the requester is not ready for them, -/
  stalls : session.rig.component.stalled ≠ [] ↔ session.rig.component.responsesBlocked = true
  /-- and then it is left alone. -/
  unhurried : Unhurried session.asked session.rig.requester.log
  /-- No response is early, and none overtakes another. -/
  inTurn : InTurn config (LinkEvent.responses session.entered) session.rig.requester.log
  /-- Requests reach memory when they are due, neither earlier nor later, and in order. -/
  requests : session.rig.memory.offers ++ LinkEvent.requests session.rig.events.agenda =
    (LinkEvent.requests session.entered).map config.carry

theorem Keeps.deliversInOrder (keeps : Keeps config session gone travelling delivered held) :
    DeliversInOrder config session where
  responses := by
    rw [keeps.holds.receives.taken, keeps.stalled, keeps.agenda, LinkConfig.responses_carry,
      List.map_map, keeps.entered, LinkEvent.responses_append, keeps.responses, List.map_append,
      List.map_append]
    rfl
  stalls := by
    rw [← keeps.holds.stalls, keeps.stalled, ne_eq, List.map_eq_nil_iff]
  unhurried := keeps.holds.receives.unhurried
  inTurn := by
    rw [keeps.entered, LinkEvent.responses_append, keeps.responses, List.append_assoc]
    exact keeps.holds.receives.inTurn
  requests := by
    rw [keeps.offers, keeps.agenda, LinkConfig.requests_carry, keeps.entered,
      LinkEvent.requests_append, List.map_append]

/-- Whatever is done to a link, it loses, doubles, changes and reorders nothing, in either
direction, also when the requester refuses responses as it likes. -/
theorem delivers_in_order [ResponseSink ρ] [RequestSink μ] (honest : ResponseSink.Honest ρ)
    (config : LinkConfig) (valid : config.validate = .ok ()) (requester : ρ) (memory : μ)
    (ops : List (SessionOp ρ μ)) :
    FixedLatencyLink.build config = .ok (opening config requester memory).rig.component ∧
    Gives Overflow (ops.foldlM perform (opening config requester memory))
      (DeliversInOrder config) := by
  have period := LinkConfig.validate_eq_ok_iff.1 valid
  refine ⟨FixedLatencyLink.build_eq_ok valid, ?_⟩
  apply (Gives.foldlM (perform_keeps honest period) ops
    ⟨[], [], [], [], opening_keeps config requester memory⟩).mono
  rintro session ⟨gone, travelling, delivered, held, keeps⟩
  exact keeps.deliversInOrder

/-- The requester refuses a response, and again when it has asked; a second one comes out meanwhile.
Then it takes both, and a third one that comes out after them. -/
theorem delivers_in_order_refused_twice :
    LinkConfig.validate { latency := 2, clockPeriod := 3 } = .ok () ∧
    FixedLatencyLink.build { latency := 2, clockPeriod := 3 } =
      .ok (opening { latency := 2, clockPeriod := 3 } ({ accepting := false } : ScriptedRequester)
        ({} : ScriptedMemory)).rig.component ∧
    Yields (List.foldlM perform
        (opening { latency := 2, clockPeriod := 3 } ({ accepting := false } : ScriptedRequester)
          ({} : ScriptedMemory))
        [.response (.read 0 0 0), .wait 1, .response (.read 1 64 0), .request (.write 2 0 1), .fire,
          .response (.read 3 0 0), .fire, .fire, .responseRetry, .change {} {}, .responseRetry,
          .fire])
      fun session => DeliversInOrder { latency := 2, clockPeriod := 3 } session ∧
        session.rig.requester.log.map Exchange.offer =
          [some (6, .read 0 0 0), some (9, .read 0 0 0), some (9, .read 0 0 0),
            some (9, .read 1 64 0), some (12, .read 3 0 0)] := by
  obtain ⟨built, delivers⟩ := delivers_in_order ScriptedRequester.honest
    { latency := 2, clockPeriod := 3 } rfl { accepting := false } ({} : ScriptedMemory)
    [.response (.read 0 0 0), .wait 1, .response (.read 1 64 0), .request (.write 2 0 1), .fire,
      .response (.read 3 0 0), .fire, .fire, .responseRetry, .change {} {}, .responseRetry, .fire]
  exact ⟨rfl, built, (delivers.and_of_map rfl).yields_of_isOk rfl⟩

end LinkSession

end GatedMemory
