import GatedMemory.Config
import GatedMemory.Proofs.Erasure

set_option autoImplicit false

namespace GatedMemory

namespace Simulation

variable {κ ε : Type} [Intermediary κ ε] {component : κ} {config : BenchmarkConfig}
  {idle : κ → Prop} {maxTicks : Nat}

/-- The run is over: each request was issued and answered, nothing is to fire, memory serves
nothing, and the component is idle. -/
structure Complete (config : BenchmarkConfig) (idle : κ → Prop)
    (sim : Simulation κ RequestGenerator MemoryModel ε) : Prop where
  finished : sim.finishedAt.isSome = true
  issued : sim.rig.requester.stats.issued = config.workload.numRequests
  responses : sim.rig.requester.stats.responses = config.workload.numRequests
  events : sim.rig.events.pending = []
  served : sim.rig.memory.occupancy = 0
  idle : idle sim.rig.component

/-- A run of the component between fresh peers gives a summary that counts every request as issued
and answered, and leaves nothing to do. -/
def Completes (component : κ) (config : BenchmarkConfig) (idle : κ → Prop) (maxTicks : Nat) :
    Prop :=
  Gives Overflow (start component (RequestGenerator.fresh config.workload)
      (MemoryModel.idle config.memory) >>= run maxTicks) fun result => ∃ summary : RunSummary,
    result.1 = .ok summary ∧ summary.requester.issued = config.workload.numRequests ∧
    summary.requester.responses = config.workload.numRequests ∧ result.2.Complete config idle

/-- A run between fresh peers is the run between peers with blank records, less the records. -/
theorem run_eq_recorded [Parametric κ] (component : κ) (config : BenchmarkConfig) (maxTicks : Nat) :
    start component (RequestGenerator.fresh config.workload) (MemoryModel.idle config.memory) >>=
        run maxTicks =
      (start component (Recorded.blank (RequestGenerator.fresh config.workload))
          (Recorded.blank (MemoryModel.idle config.memory)) >>= run maxTicks).map
        (Prod.map id (map Recorded.peer Recorded.peer)) :=
  run_start_map Recorded.requesterMap Recorded.memoryMap component
    (Recorded.blank (RequestGenerator.fresh config.workload))
    (Recorded.blank (MemoryModel.idle config.memory)) maxTicks

/-- It is enough to look at the run between peers with records. -/
theorem Completes.of_recorded [Parametric κ]
    (ran : Gives Overflow (start component (Recorded.blank (RequestGenerator.fresh config.workload))
        (Recorded.blank (MemoryModel.idle config.memory)) >>= run maxTicks) fun result =>
      result.1 = result.2.summary ∧
        (result.2.map Recorded.peer Recorded.peer).Complete config idle) :
    Completes component config idle maxTicks := by
  rw [Completes, run_eq_recorded]
  apply ran.map
  rintro ⟨outcome, final⟩ ⟨same, complete⟩
  simp only at same complete
  subst same
  obtain ⟨ticks, finished⟩ := Option.isSome_iff_exists.1 complete.finished
  let result : RunSummary := {
    component := Intermediary.name κ
    ticks
    requester := final.rig.requester.peer.stats
    memoryRejections := final.rig.memory.peer.rejections }
  have summarized : final.summary = .ok result := by
    have same : final.finishedAt = some ticks := finished
    simp only [summary, same]
    rfl
  exact ⟨result, summarized, complete.issued, complete.responses, complete⟩

end Simulation

end GatedMemory
