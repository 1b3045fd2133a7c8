import GatedMemory.Proofs.Completion
import GatedMemory.Proofs.Peers
import Mathlib.Data.List.Nodup
import Mathlib.Data.List.Range

set_option autoImplicit false

namespace GatedMemory

def Exchange.refused? : Exchange → Option Packet
  | offered _ _ (.rejected packet) => some packet
  | _ => none

namespace Recorded

variable {σ : Type}

def refused (recorded : Recorded σ) : List Packet :=
  recorded.log.filterMap Exchange.refused?

theorem refused_note (recorded : Recorded σ) (peer : σ) (exchange : Exchange) :
    (recorded.note peer exchange).refused = recorded.refused ++ exchange.refused?.toList := by
  simp only [refused, note, List.filterMap_append]
  cases refused : exchange.refused? <;> simp [refused]

end Recorded

namespace RecordedMemory

variable {memory next : RecordedMemory} {number : Nat} {outstanding : Option Packet}
  {packet answer : Packet} {now : Nat}

/-- The request with this number is the next that memory is to take, and memory may have turned it
down. All that it has turned down before were taken since. -/
structure Refusals (memory : RecordedMemory) (number : Nat) (outstanding : Option Packet) : Prop
    where
  counted : memory.peer.rejections = memory.refused.length
  history : ∃ before, memory.refused = before ++ outstanding.toList ∧
    ∀ packet ∈ before, packet.id < number
  once : (memory.refused.map Packet.id).Nodup
  next : ∀ packet ∈ outstanding, packet.id = number

theorem blank_refusals (config : MemoryConfig) :
    Refusals (Recorded.blank (MemoryModel.idle config)) 0 none where
  counted := rfl
  history := ⟨[], rfl, nofun⟩
  once := List.nodup_nil
  next := nofun

namespace Refusals

variable (refusals : memory.Refusals number outstanding)
include refusals

theorem congr (rejections : next.peer.rejections = memory.peer.rejections)
    (refused : next.refused = memory.refused) : next.Refusals number outstanding where
  counted := by rw [rejections, refused, refusals.counted]
  history := refused ▸ refusals.history
  once := refused ▸ refusals.once
  next := refusals.next

/-- None that memory has turned down comes after the next that it is to take. -/
theorem below : ∀ packet ∈ memory.refused, packet.id < number + outstanding.toList.length := by
  obtain ⟨before, split, earlier⟩ := refusals.history
  intro packet member
  rw [split] at member
  rcases List.mem_append.1 member with old | last
  · exact Nat.lt_add_right _ (earlier packet old)
  · have same := refusals.next packet (Option.mem_toList.1 last)
    have positive := List.length_pos_of_mem last
    omega

theorem accept : (memory.accepting packet answer now).Refusals (number + 1) none where
  counted := by
    rw [accepting, Recorded.refused_note]
    exact refusals.counted.trans (congrArg List.length (List.append_nil _).symm)
  history := by
    refine ⟨memory.refused, Recorded.refused_note _ _ _, fun packet member => ?_⟩
    have below := refusals.below packet member
    have single : outstanding.toList.length ≤ 1 := by cases outstanding <;> simp
    omega
  once := by
    rw [accepting, Recorded.refused_note]
    exact (List.append_nil memory.refused).symm ▸ refusals.once
  next := nofun

/-- Memory turns down the next request, for the first time. -/
theorem refuse (first : outstanding = none) (same : packet.id = number) :
    (memory.refusing packet now).Refusals number (some packet) := by
  subst first
  have refused : (memory.refusing packet now).refused = memory.refused ++ [packet] :=
    Recorded.refused_note _ _ _
  have earlier : ∀ packet ∈ memory.refused, packet.id < number := refusals.below
  refine ⟨?_, ⟨memory.refused, refused, earlier⟩, ?_, ?_⟩
  · rw [refused, List.length_append, ← refusals.counted]
    rfl
  · rw [refused, List.map_append, List.nodup_append]
    refine ⟨refusals.once, List.nodup_singleton _, ?_⟩
    intro id old other new
    obtain ⟨turned, member, rfl⟩ := List.mem_map.1 old
    rw [List.mem_singleton.1 new]
    exact Nat.ne_of_lt (same ▸ earlier turned member)
  · rintro _ ⟨⟩
    exact same

/-- The one that is outstanding was turned down last. -/
theorem getLast? (some_packet : outstanding = some packet) :
    memory.refused.getLast? = some packet := by
  obtain ⟨before, split, -⟩ := refusals.history
  rw [split, some_packet, Option.toList_some, List.getLast?_concat]

/-- Memory has turned down no more requests than there are. -/
theorem rejections_le {total : Nat} (enough : number + outstanding.toList.length ≤ total) :
    memory.peer.rejections ≤ total := by
  have inside : memory.refused.map Packet.id ⊆ List.range total := by
    intro id member
    obtain ⟨packet, present, rfl⟩ := List.mem_map.1 member
    exact List.mem_range.2 (Nat.lt_of_lt_of_le (refusals.below packet present) enough)
  have length := (List.subperm_of_subset refusals.once inside).length_le
  rw [List.length_map, List.length_range] at length
  exact refusals.counted ▸ length

end Refusals

end RecordedMemory

namespace Simulation

variable {κ ε : Type} [Intermediary κ ε]

/-- After its turns a tick leaves memory alone if winding down does. -/
theorem tick_log {sim : Simulation κ RecordedRequester RecordedMemory ε} {log : List Exchange}
    (turned : Gives Overflow (turns sim.rig) fun result => result.1 = none ∧
      result.2.memory.log = log ∧ (Intermediary.windDown result.2).memory = result.2.memory) :
    Gives Overflow sim.tick fun result => result.1 = none ∧ result.2.rig.memory.log = log := by
  apply tick_gives
  apply turned.mono
  rintro ⟨_, rig⟩ ⟨rfl, kept, quiet⟩
  simp only at kept quiet
  have ends : (Intermediary.windDown rig).memory.log = log := quiet.symm ▸ kept
  exact ⟨rfl, (finishOrContinue_keeps (fun rig => rig.memory.log = log) ends fun _ => kept).mono
    fun _ kept => ⟨rfl, kept⟩⟩

/-- If the next event is a tick of the clock, and in that tick memory settles the retry that it
owes, then the request that it turned down last is offered to it in the same tick, and memory takes
it. -/
def HonoursRetry (sim : Simulation κ RecordedRequester RecordedMemory ε) : Prop :=
  ∀ entry rest served, sim.rig.events.pending = entry :: rest → entry.payload = .clock →
    serveResponse { sim.rig with events := sim.rig.events.after entry rest } = .ok served →
    (ResponseSource.settleRetry served.memory).1 = true →
    ∃ packet, sim.rig.memory.refused.getLast? = some packet ∧
      Gives Overflow
        (tick { sim with rig := { sim.rig with events := sim.rig.events.after entry rest } })
        fun result => result.1 = none ∧ result.2.rig.memory.log =
          sim.rig.memory.log ++ [.offered entry.tick packet .accepted]

/-- No retry is in vain. No request was turned down by memory twice, and so no more than there
are. -/
structure Heeds (config : BenchmarkConfig)
    (sim : Simulation κ RecordedRequester RecordedMemory ε) : Prop where
  honours : sim.HonoursRetry
  counted : sim.rig.memory.peer.rejections = sim.rig.memory.refused.length
  once : (sim.rig.memory.refused.map Packet.id).Nodup
  bounded : sim.rig.memory.peer.rejections ≤ config.workload.numRequests

/-- After any number of events, and at the end of every run, no retry was in vain. -/
structure NeverInVain (component : κ) (config : BenchmarkConfig) : Prop where
  after : ∀ count, Gives Overflow
    (start component (Recorded.blank (RequestGenerator.fresh config.workload))
      (Recorded.blank (MemoryModel.idle config.memory)) >>= fireMany count) fun sim =>
    start component (RequestGenerator.fresh config.workload) (MemoryModel.idle config.memory) >>=
      fireMany count = .ok (sim.map Recorded.peer Recorded.peer) ∧ sim.Heeds config
  ended : ∀ maxTicks, Gives Overflow
    (start component (Recorded.blank (RequestGenerator.fresh config.workload))
      (Recorded.blank (MemoryModel.idle config.memory)) >>= run maxTicks) fun result =>
    start component (RequestGenerator.fresh config.workload) (MemoryModel.idle config.memory) >>=
      run maxTicks = .ok (result.1, result.2.map Recorded.peer Recorded.peer) ∧
      result.1 = result.2.summary ∧ result.2.Heeds config

theorem neverInVain_of_preserves [Parametric κ] {component : κ} {config : BenchmarkConfig}
    {holds : Simulation κ RecordedRequester RecordedMemory ε → Prop}
    (preserves : Preserves Overflow holds) (heeds : ∀ sim, holds sim → sim.Heeds config)
    (opens : Gives Overflow (start component
      (Recorded.blank (RequestGenerator.fresh config.workload))
      (Recorded.blank (MemoryModel.idle config.memory))) holds) :
    NeverInVain component config := by
  have always := preserves.always Recorded.requesterMap Recorded.memoryMap heeds opens
  exact { after := always.after, ended := always.ended }

end Simulation

end GatedMemory
