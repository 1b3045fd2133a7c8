import GatedMemory.Intermediary.Link
import GatedMemory.Proofs.EventQueue
import GatedMemory.Proofs.Peers
import GatedMemory.Simulation

set_option autoImplicit false

namespace GatedMemory

abbrev Crossing := Rig FixedLatencyLink RecordedRequester RecordedMemory (SimulationEvent LinkEvent)

namespace FixedLatencyLink

variable {ρ μ α : Type}

def arrivalTick (rig : Rig FixedLatencyLink ρ μ α) : Nat :=
  Clock.edge rig.now rig.component.config.latency rig.component.config.clockPeriod

def carrying [Embed LinkEvent α] (rig : Rig FixedLatencyLink ρ μ α) (event : LinkEvent) :
    Rig FixedLatencyLink ρ μ α :=
  { rig with
    events := rig.events.scheduled (arrivalTick rig) Priority.standard (Embed.embed event) }

theorem send_gives [Embed LinkEvent α] (rig : Rig FixedLatencyLink ρ μ α)
    (period : 0 < rig.component.config.clockPeriod) (event : LinkEvent) :
    Gives (Exceeds (arrivalTick rig)) (send event rig) fun next => next = carrying rig event := by
  have future : rig.events.now ≤
      Clock.edge rig.now rig.component.config.latency rig.component.config.clockPeriod :=
    Clock.le_edge period
  apply (Clock.edge?_exceeds period rig.now rig.component.config.latency).bind
  rintro _ rfl
  simp only [EventQueue.schedule_eq future]
  exact .ok rfl

theorem response_gives [ResponseSink ρ] [Embed LinkEvent α] (rig : Rig FixedLatencyLink ρ μ α)
    (period : 0 < rig.component.config.clockPeriod) (packet : Packet) :
    Gives (Exceeds (arrivalTick rig)) (Intermediary.response packet rig) fun result =>
      result = (.accepted, carrying rig (.responseArrives packet)) := by
  apply (send_gives rig period (.responseArrives packet)).bind
  rintro _ rfl
  exact .ok rfl

theorem request_gives [RequestSink μ] [Embed LinkEvent α] (rig : Rig FixedLatencyLink ρ μ α)
    (period : 0 < rig.component.config.clockPeriod) (packet : Packet) :
    Gives (Exceeds (arrivalTick rig)) (Intermediary.request packet rig) fun result =>
      result = (.ok .accepted, carrying rig (.requestArrives packet)) := by
  apply (send_gives rig period (.requestArrives packet)).bind
  rintro _ rfl
  exact .ok rfl

end FixedLatencyLink

namespace Crossing

variable {rig : Crossing}

inductive Serves (rig : Crossing) : Crossing → Prop where
  | idle (quiet : rig.memory.peer.responseBlocked = true ∨
      ∀ entry ∈ rig.memory.peer.serving.head?, rig.now < entry.1) : Serves rig rig
  | sent {due : Nat} {answer : Packet} {rest : List (Nat × Packet)}
    (unblocked : rig.memory.peer.responseBlocked = false)
    (serving : rig.memory.peer.serving = (due, answer) :: rest) (ready : due ≤ rig.now) :
    Serves rig (FixedLatencyLink.carrying { rig with memory := rig.memory.withServing rest }
      (.responseArrives answer))

theorem serveResponse_serves {faults : Fault → Prop} (period : 0 < rig.component.config.clockPeriod)
    (late : rig.memory.peer.serving ≠ [] →
      Allows faults (FixedLatencyLink.arrivalTick rig)) :
    Gives faults (Simulation.serveResponse rig) (Serves rig) := by
  have outcomes := rig.memory.takeReady_cases rig.now
  unfold Simulation.serveResponse
  generalize ResponseSource.takeReady rig.now rig.memory = outcome at outcomes
  cases outcomes with
  | idle quiet => exact .ok (.idle quiet)
  | @taken due answer rest unblocked serving ready =>
    have sent := FixedLatencyLink.response_gives { rig with memory := rig.memory.withServing rest }
      period answer
    apply (sent.weaken (late (serving ▸ List.cons_ne_nil _ _))).bind
    rintro _ rfl
    exact .ok (.sent unblocked serving ready)

inductive Issues (rig : Crossing) : Crossing → Prop where
  | idle (quiet : rig.requester.peer.awaitsRetry = true ∨
      rig.requester.peer.held = none ∧ rig.requester.peer.canCreate = false) : Issues rig rig
  | sent {packet : Packet} {source : RequestGenerator}
    (offers : rig.requester.peer.Offers rig.now packet source) :
    Issues rig (FixedLatencyLink.carrying
      { rig with requester := { rig.requester with peer := source.accepted } }
      (.requestArrives packet))

theorem issueRequest_issues {faults : Fault → Prop} (regular : rig.requester.peer.Regular)
    (period : 0 < rig.component.config.clockPeriod)
    (far : Allows faults rig.requester.peer.workload.reach)
    (late : ∀ packet source, rig.requester.peer.Offers rig.now packet source →
      Allows faults (FixedLatencyLink.arrivalTick rig)) :
    Gives faults (Simulation.issueRequest rig) fun result =>
      result.1 = none ∧ Issues rig result.2 := by
  unfold Simulation.issueRequest
  apply ((RecordedRequester.next_cases regular.line rig.now).weaken far).bind
  intro outcome cases
  cases cases with
  | idle quiet => exact .ok ⟨rfl, .idle quiet⟩
  | @offers packet source offers =>
    let asked : Crossing := { rig with requester := { rig.requester with peer := source } }
    have sent := FixedLatencyLink.request_gives asked period packet
    apply (sent.weaken (late packet source offers)).bind
    rintro _ rfl
    exact .ok ⟨rfl, .sent offers⟩

inductive Arrives (rig : Crossing) : LinkEvent → Option RunError × Crossing → Prop where
  | accepted {packet answer : Packet} (room : rig.memory.peer.hasRoom = true)
    (answered : packet.response? = some answer) : Arrives rig (.requestArrives packet)
      (none, { rig with memory := rig.memory.accepting packet answer rig.now })
  | refused {packet : Packet} (full : rig.memory.peer.hasRoom = false) :
    Arrives rig (.requestArrives packet)
      (some (.requestRejected FixedLatencyLink.label packet.address),
        { rig with memory := rig.memory.refusing packet rig.now })
  | delivered {packet : Packet} : Arrives rig (.responseArrives packet)
      (none, { rig with requester := rig.requester.receiving packet rig.now })

theorem handle_arrives {event : LinkEvent} (unblocked : rig.component.responsesBlocked = false)
    (plain : ∀ packet, event = .requestArrives packet → packet.IsAccess) :
    Arrives rig event (FixedLatencyLink.handle event rig) := by
  cases event with
  | requestArrives packet =>
    obtain ⟨answer, answered, -⟩ := (plain packet rfl).response?
    cases room : rig.memory.peer.hasRoom with
    | true =>
      simp only [FixedLatencyLink.handle, RecordedMemory.offer_of_room room answered]
      exact .accepted room answered
    | false =>
      simp only [FixedLatencyLink.handle, RecordedMemory.offer_of_full room]
      exact .refused room
  | responseArrives packet =>
    simp only [FixedLatencyLink.handle, FixedLatencyLink.receiveResponse, unblocked,
      RecordedRequester.offer_eq, Bool.false_eq_true, ↓reduceIte]
    exact .delivered

end Crossing

end GatedMemory
