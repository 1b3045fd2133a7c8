import GatedMemory.Proofs.Erasure

set_option autoImplicit false

namespace GatedMemory

variable {κ ε ρ μ : Type}

/-- A requester, and every packet that it has offered, with the tick, oldest first. -/
structure Dated (ρ : Type) where
  peer : ρ
  offers : List (Nat × Packet)

def Dated.blank (peer : ρ) : Dated ρ :=
  { peer, offers := [] }

def firstOffer? (offers : List (Nat × Packet)) (number : Nat) : Option (Nat × Packet) :=
  offers.find? fun offer => offer.2.id == number

def generated (offers : List (Nat × Packet)) (count : Nat) : List Packet :=
  (List.range count).filterMap fun number => (firstOffer? offers number).map Prod.snd

/-- The packet was offered first in the tick in which it was created. -/
def Packet.DatedBy (packet : Packet) (offers : List (Nat × Packet)) : Prop :=
  firstOffer? offers packet.id = some (packet.createdAt, packet)

namespace Packet.DatedBy

variable {offers : List (Nat × Packet)} {packet : Packet}

theorem append (dated : packet.DatedBy offers) (more : List (Nat × Packet)) :
    packet.DatedBy (offers ++ more) := by
  unfold DatedBy firstOffer? at dated ⊢
  rw [List.find?_append, dated, Option.some_or]

/-- The first packet of its number is dated by its own offer. -/
theorem first (absent : ∀ offer ∈ offers, offer.2.id ≠ packet.id) :
    packet.DatedBy (offers ++ [(packet.createdAt, packet)]) := by
  have none_before : firstOffer? offers packet.id = none := by
    rw [firstOffer?, List.find?_eq_none]
    intro offer member
    simpa only [beq_iff_eq] using absent offer member
  unfold firstOffer? at none_before
  unfold DatedBy firstOffer?
  rw [List.find?_append, none_before, Option.none_or]
  simp only [List.find?_cons, BEq.rfl]

theorem mem (dated : packet.DatedBy offers) : (packet.createdAt, packet) ∈ offers :=
  List.mem_of_find?_eq_some dated

end Packet.DatedBy

/-- Packets that are numbered in order and dated by the offers are those that were generated. -/
theorem generated_eq {offers : List (Nat × Packet)} {packets : List Packet} {count : Nat}
    (order : packets.map Packet.id = List.range count)
    (dated : ∀ packet ∈ packets, packet.DatedBy offers) : generated offers count = packets := by
  have found : ∀ packet ∈ packets,
      (firstOffer? offers packet.id).map Prod.snd = some packet := by
    intro packet member
    rw [dated packet member]
    rfl
  rw [generated, ← order, List.filterMap_map]
  exact (List.filterMap_congr found).trans List.filterMap_some

instance [ResponseSink ρ] : ResponseSink (Dated ρ) where
  offer packet now dated :=
    let (delivery, peer) := ResponseSink.offer packet now dated.peer
    (delivery, { dated with peer })
  requestRetry dated := { dated with peer := ResponseSink.requestRetry dated.peer }
  rangeChange dated := { dated with peer := ResponseSink.rangeChange dated.peer }

instance [TrafficSource ρ] : TrafficSource (Dated ρ) where
  next now dated := do
    let (packet, peer) ← TrafficSource.next now dated.peer
    return (packet, { peer, offers := dated.offers ++ packet.toList.map (now, ·) })
  accepted dated := { dated with peer := TrafficSource.accepted dated.peer }
  rejected packet dated := { dated with peer := TrafficSource.rejected packet dated.peer }
  isFinished dated := TrafficSource.isFinished dated.peer
  stats dated := TrafficSource.stats dated.peer
  oversize? dated := TrafficSource.oversize? dated.peer

/-- Taking the notes away is a map between requesters. -/
theorem Dated.requesterMap [TrafficSource ρ] : TrafficSource.Map (Dated.peer : Dated ρ → ρ) where
  offer _ _ _ := rfl
  requestRetry _ := rfl
  next now dated := by
    simp only [TrafficSource.next]
    cases TrafficSource.next now dated.peer <;> rfl
  accepted _ := rfl
  rejected _ _ := rfl
  isFinished _ := rfl
  stats _ := rfl
  oversize? _ := rfl

/-- These are the requester's notes. -/
def Dated.Noted (log : List (Nat × Packet)) (dated : Dated ρ) : Prop :=
  dated.offers = log

theorem Dated.closed [ResponseSink ρ] (log : List (Nat × Packet)) :
    ResponseSink.Closed (Dated.Noted log : Dated ρ → Prop) where
  offer _ _ _ same := same
  requestRetry _ same := same

namespace Simulation

variable [Intermediary κ ε] [TrafficSource ρ] [ResponseSource μ]

/-- What the requester offers when the event is handled. -/
def offering (event : SimulationEvent ε) (sim : Simulation κ ρ μ ε) : List (Nat × Packet) :=
  match event with
  | .component _ => []
  | .clock =>
    match serveResponse sim.rig with
    | .error _ => []
    | .ok served =>
      match TrafficSource.next (passRetry served).now (passRetry served).requester with
      | .error _ => []
      | .ok (offered, _) => offered.toList.map ((passRetry served).now, ·)

/-- Whichever event fires next, nothing goes wrong, and the property holds with what is offered
added to the log. -/
def PreservesLogged (holds : List (Nat × Packet) → Simulation κ ρ μ ε → Prop) : Prop :=
  ∀ (log : List (Nat × Packet)) (sim : Simulation κ ρ μ ε)
    (entry : EventEntry (SimulationEvent ε)) (rest : List (EventEntry (SimulationEvent ε))),
    holds log sim → sim.rig.events.pending = entry :: rest →
    Gives Overflow (handle entry.payload
        { sim with rig := { sim.rig with events := sim.rig.events.after entry rest } })
      fun result => result.1 = none ∧ holds (log ++ offering entry.payload
        { sim with rig := { sim.rig with events := sim.rig.events.after entry rest } }) result.2

theorem PreservesLogged.preserves {holds : List (Nat × Packet) → Simulation κ ρ μ ε → Prop}
    (preserves : PreservesLogged holds) : Preserves Overflow fun sim => ∃ log, holds log sim := by
  rintro sim entry rest ⟨log, now⟩ pending
  apply (preserves log sim entry rest now pending).mono
  rintro result ⟨none, kept⟩
  exact ⟨none, _, kept⟩

section Notes

variable [Parametric κ] {rig next : Rig κ (Dated ρ) μ (SimulationEvent ε)}

theorem serveResponse_offers (serve : serveResponse rig = .ok next) :
    next.requester.offers = rig.requester.offers := by
  have now : Dated.Noted rig.requester.offers rig.requester := rfl
  unfold serveResponse at serve
  generalize ResponseSource.takeReady rig.now rig.memory = taken at serve
  obtain ⟨_ | packet, memory⟩ := taken
  · cases serve
    rfl
  · simp only at serve
    cases answer : Intermediary.response packet { rig with memory } with
    | error fault =>
      rw [answer] at serve
      cases serve
    | ok result =>
      have kept := (Dated.closed rig.requester.offers).response_keeps { rig with memory } now answer
      rw [answer] at serve
      obtain ⟨_ | back, later⟩ := result
      · cases serve
        exact kept
      · cases serve
        exact kept

theorem passRetry_offers : (passRetry rig).requester.offers = rig.requester.offers := by
  have now : Dated.Noted rig.requester.offers rig.requester := rfl
  unfold passRetry
  generalize ResponseSource.settleRetry rig.memory = settled
  obtain ⟨_ | _, memory⟩ := settled
  · rfl
  · exact (Dated.closed rig.requester.offers).requestRetry_keeps { rig with memory } now

/-- In its turn to send, a requester notes what it offers. -/
theorem issueRequest_offers (issue : issueRequest rig = .ok (none, next)) :
    ∃ offered source, TrafficSource.next rig.now rig.requester.peer = .ok (offered, source) ∧
      next.requester.offers = rig.requester.offers ++ offered.toList.map (rig.now, ·) := by
  unfold issueRequest at issue
  simp only [TrafficSource.next] at issue
  cases found : TrafficSource.next rig.now rig.requester.peer with
  | error fault =>
    rw [found] at issue
    cases issue
  | ok result =>
    obtain ⟨_ | packet, source⟩ := result
    · rw [found] at issue
      cases issue
      exact ⟨none, source, rfl, rfl⟩
    · rw [found] at issue
      let noted : Dated ρ := ⟨source, rig.requester.offers ++ [(rig.now, packet)]⟩
      have now : Dated.Noted noted.offers noted := rfl
      change (Intermediary.request packet { rig with requester := noted } >>= _) = _ at issue
      cases answer : Intermediary.request packet { rig with requester := noted } with
      | error fault =>
        rw [answer] at issue
        cases issue
      | ok result =>
        have kept := ResponseSink.Closed.request_keeps { rig with requester := noted } now answer
        rw [answer] at issue
        obtain ⟨_ | _ | back, later⟩ := result
        · cases issue
        · cases issue
          exact ⟨some packet, source, rfl, kept⟩
        · cases issue
          exact ⟨some packet, source, rfl, kept⟩

omit [ResponseSource μ] in
theorem finishOrContinue_offers {sim final : Simulation κ (Dated ρ) μ ε}
    (ends : sim.finishOrContinue = .ok final) :
    final.rig.requester.offers = sim.rig.requester.offers := by
  have now : Dated.Noted sim.rig.requester.offers sim.rig.requester := rfl
  have kept : Gives Overflow sim.finishOrContinue fun final =>
      final.rig.requester.offers = sim.rig.requester.offers :=
    finishOrContinue_keeps
      (fun rig : Rig κ (Dated ρ) μ (SimulationEvent ε) =>
        Dated.Noted sim.rig.requester.offers rig.requester)
      (ResponseSink.Closed.windDown_keeps sim.rig now) fun _ => now
  exact kept.of_eq_ok ends

/-- In a tick of the clock, a requester notes what it offers. -/
theorem tick_offers {sim final : Simulation κ (Dated ρ) μ ε}
    (ticked : sim.tick = .ok (none, final)) : final.rig.requester.offers =
      sim.rig.requester.offers ++ offering .clock (sim.map Dated.peer id) := by
  rw [tick_eq, turns] at ticked
  cases serve : serveResponse sim.rig with
  | error fault =>
    rw [serve] at ticked
    cases ticked
  | ok served =>
    rw [serve, ok_bind] at ticked
    cases issue : issueRequest (passRetry served) with
    | error fault =>
      rw [issue] at ticked
      cases ticked
    | ok result =>
      rw [issue, ok_bind] at ticked
      obtain ⟨_ | error, issued⟩ := result
      · obtain ⟨final', ends, same⟩ := Yields.of_map ticked
        cases same
        obtain ⟨offered, source, found, noted⟩ := issueRequest_offers issue
        -- without the notes, memory and the retry have the same turns
        have plain : serveResponse (sim.map Dated.peer id).rig =
            .ok (served.map Dated.peer id) := by
          have mapped := serveResponse_map Dated.requesterMap ResponseSource.Map.refl sim.rig
          rw [serve] at mapped
          exact mapped
        have retried : passRetry (served.map Dated.peer id) =
            (passRetry served).map Dated.peer id :=
          passRetry_map Dated.requesterMap ResponseSource.Map.refl served
        have next : TrafficSource.next ((passRetry served).map Dated.peer id).now
            ((passRetry served).map Dated.peer id).requester = .ok (offered, source) := found
        simp only [offering, plain, retried, next]
        rw [finishOrContinue_offers ends]
        exact noted.trans (congrArg (· ++ _) (passRetry_offers.trans (serveResponse_offers serve)))
      · cases ticked

/-- Handling an event, a requester notes what it offers. -/
theorem handle_offers {event : SimulationEvent ε} {sim final : Simulation κ (Dated ρ) μ ε}
    (handled : handle event sim = .ok (none, final)) : final.rig.requester.offers =
      sim.rig.requester.offers ++ offering event (sim.map Dated.peer id) := by
  cases event with
  | component event =>
    have now : Dated.Noted sim.rig.requester.offers sim.rig.requester := rfl
    replace handled := (handle_eq_ok_iff.1 handled).1
    rw [react] at handled
    cases done : Intermediary.handle event sim.rig with
    | error fault =>
      rw [done] at handled
      cases handled
    | ok result =>
      have kept := (Dated.closed sim.rig.requester.offers).handle_keeps sim.rig now done
      obtain ⟨failure, rig⟩ := result
      rw [done] at handled
      cases handled
      exact kept.trans (List.append_nil _).symm
  | clock => exact tick_offers (handle_eq_ok_iff.1 handled).1

end Notes

/-- A property of logs and states holds of the notes throughout if every event keeps it with what is
offered added. -/
theorem PreservesLogged.dated [Parametric κ]
    {holds : List (Nat × Packet) → Simulation κ ρ μ ε → Prop} (preserves : PreservesLogged holds) :
    Preserves Overflow fun sim : Simulation κ (Dated ρ) μ ε =>
      holds sim.rig.requester.offers (sim.map Dated.peer id) := by
  intro sim entry rest now pending
  let fired : Simulation κ (Dated ρ) μ ε :=
    { sim with rig := { sim.rig with events := sim.rig.events.after entry rest } }
  have mapped := handle_map Dated.requesterMap ResponseSource.Map.refl entry.payload fired
  have plain := preserves _ (sim.map Dated.peer id) entry rest now pending
  change Gives Overflow (handle entry.payload (fired.map Dated.peer id)) _ at plain
  rw [mapped] at plain
  apply (Gives.of_map plain).and_eq.mono
  rintro ⟨_, final⟩ ⟨handled, rfl, kept⟩
  have noted := handle_offers handled
  refine ⟨rfl, ?_⟩
  simp only [noted]
  exact kept

end Simulation

end GatedMemory
