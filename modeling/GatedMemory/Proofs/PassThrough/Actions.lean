import GatedMemory.Intermediary.PassThrough
import GatedMemory.Proofs.Peers
import GatedMemory.Simulation

set_option autoImplicit false

namespace GatedMemory

abbrev Passage := Rig PassThrough RecordedRequester RecordedMemory (SimulationEvent Empty)

namespace Passage

variable {rig : Passage}

inductive Serves (rig : Passage) : Passage → Prop where
  | idle (quiet : rig.memory.peer.responseBlocked = true ∨
      ∀ entry ∈ rig.memory.peer.serving.head?, rig.now < entry.1) : Serves rig rig
  | passed {due : Nat} {answer : Packet} {rest : List (Nat × Packet)}
    (unblocked : rig.memory.peer.responseBlocked = false)
    (serving : rig.memory.peer.serving = (due, answer) :: rest) (ready : due ≤ rig.now) :
    Serves rig { rig with
      requester := rig.requester.receiving answer rig.now
      memory := rig.memory.withServing rest }

theorem serveResponse_serves {faults : Fault → Prop} (rig : Passage) :
    Gives faults (Simulation.serveResponse rig) (Serves rig) := by
  have outcomes := rig.memory.takeReady_cases rig.now
  unfold Simulation.serveResponse
  generalize ResponseSource.takeReady rig.now rig.memory = outcome at outcomes
  cases outcomes with
  | idle quiet => exact .ok (.idle quiet)
  | taken unblocked serving ready => exact .ok (.passed unblocked serving ready)

/-- What passing on the retry that memory owes can do. -/
inductive Retries (rig : Passage) : Passage → Prop where
  | idle (quiet : rig.memory.peer.owesRetry = false ∨ rig.memory.peer.hasRoom = false) :
    Retries rig rig
  | passed (owed : rig.memory.peer.owesRetry = true) (room : rig.memory.peer.hasRoom = true) :
    Retries rig { rig with
      requester := rig.requester.resuming
      memory := rig.memory.settling }

theorem passRetry_retries (rig : Passage) : Retries rig (Simulation.passRetry rig) := by
  unfold Simulation.passRetry
  by_cases owed : rig.memory.peer.owesRetry = true
  · by_cases room : rig.memory.peer.hasRoom = true
    · simp only [RecordedMemory.settleRetry_of_owed owed room, ↓reduceIte]
      exact .passed owed room
    · have full := Bool.eq_false_iff.2 room
      simp only [RecordedMemory.settleRetry_of_idle (.inr full), Bool.false_eq_true, ↓reduceIte]
      exact .idle (.inr full)
  · have none := Bool.eq_false_iff.2 owed
    simp only [RecordedMemory.settleRetry_of_idle (.inl none), Bool.false_eq_true, ↓reduceIte]
    exact .idle (.inl none)

inductive Issues (rig : Passage) : Passage → Prop where
  | idle (quiet : rig.requester.peer.awaitsRetry = true ∨
      rig.requester.peer.held = none ∧ rig.requester.peer.canCreate = false) : Issues rig rig
  | accepted {packet answer : Packet} {source : RequestGenerator}
    (offers : rig.requester.peer.Offers rig.now packet source)
    (room : rig.memory.peer.hasRoom = true) (answered : packet.response? = some answer) :
    Issues rig { rig with
      requester := { rig.requester with peer := source.accepted }
      memory := rig.memory.accepting packet answer rig.now }
  | refused {packet : Packet} {source : RequestGenerator}
    (offers : rig.requester.peer.Offers rig.now packet source)
    (full : rig.memory.peer.hasRoom = false) :
    Issues rig { rig with
      requester := { rig.requester with peer := source.rejected packet }
      memory := rig.memory.refusing packet rig.now }

theorem issueRequest_issues (regular : rig.requester.peer.Regular) :
    Gives (Exceeds rig.requester.peer.workload.reach) (Simulation.issueRequest rig)
      fun result => result.1 = none ∧ Issues rig result.2 := by
  unfold Simulation.issueRequest
  apply (RecordedRequester.next_cases regular.line rig.now).bind
  intro outcome cases
  cases cases with
  | idle quiet => exact .ok ⟨rfl, .idle quiet⟩
  | offers offers =>
    cases room : rig.memory.peer.hasRoom with
    | true =>
      obtain ⟨answer, answered, -⟩ := (offers.access regular).response?
      simp only [Intermediary.request, RecordedMemory.offer_of_room room answered, ok_bind]
      exact .ok ⟨rfl, .accepted offers room answered⟩
    | false =>
      simp only [Intermediary.request, RecordedMemory.offer_of_full room, ok_bind]
      exact .ok ⟨rfl, .refused offers room⟩

variable {next : Passage}

theorem Serves.events (serves : rig.Serves next) : next.events = rig.events := by
  cases serves <;> rfl

theorem Retries.events (retries : rig.Retries next) : next.events = rig.events := by
  cases retries <;> rfl

theorem Issues.events (issues : rig.Issues next) : next.events = rig.events := by
  cases issues <;> rfl

end Passage

end GatedMemory
