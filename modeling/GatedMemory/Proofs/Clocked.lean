import GatedMemory.Proofs.Completion
import GatedMemory.Proofs.Peers
import Mathlib.Algebra.Group.Nat.Defs

set_option autoImplicit false

namespace GatedMemory

/-- Nothing that has to be positive is zero. -/
structure BenchmarkConfig.Positive (config : BenchmarkConfig) : Prop where
  requests : 0 < config.secureModule.requestCapacity
  responses : 0 < config.secureModule.responseCapacity
  period : 0 < config.secureModule.clockPeriod
  linkPeriod : 0 < config.link.clockPeriod
  outstanding : 0 < config.memory.maxOutstanding
  window : 0 < config.workload.maxOutstanding
  line : 0 < config.workload.lineSize

/-- A configuration under which every part can move. -/
structure BenchmarkConfig.Workable (config : BenchmarkConfig) : Prop extends config.Positive where
  fits : config.secureModule.requestCapacity + 1 < 2 ^ 32

/-- None of the times that the peers keep is larger than this. -/
structure Rig.TimesWithin {κ α : Type} (rig : Rig κ RecordedRequester RecordedMemory α)
    (bound : Nat) : Prop where
  total : rig.requester.peer.stats.totalRoundTrip ≤ bound
  due : ∀ entry ∈ rig.memory.peer.serving, entry.1 ≤ bound

/-- The clock comes after whatever the component does at the same tick. -/
def SimulationEvent.rank {ε : Type} (inner : ε → Int) : SimulationEvent ε → Int
  | component event => inner event
  | clock => Priority.external

namespace Simulation

variable {κ ε ρ μ : Type}

/-- The clock comes again at the next tick at the latest, and the other events are these. -/
structure Ticking (sim : Simulation κ ρ μ ε) (clock : Nat)
    (others : List (Nat × SimulationEvent ε)) : Prop where
  awaits : sim.rig.events.Awaits ((clock, .clock) :: others)
  soon : clock ≤ sim.now + 1
  going : sim.clock.stopped = false

theorem begun_ticking {rig : Rig κ ρ μ (SimulationEvent ε)}
    {others : List (Nat × SimulationEvent ε)} (awaits : rig.events.Awaits others)
    (zero : rig.now = 0) : (begun rig).Ticking 0 others where
  awaits := awaits.schedule (Nat.le_of_eq zero) _ _
  soon := Nat.zero_le _
  going := rfl

theorem begun_ranked {inner : ε → Int} {rig : Rig κ ρ μ (SimulationEvent ε)}
    (ranked : rig.events.Ranked (SimulationEvent.rank inner)) :
    (begun rig).rig.events.Ranked (SimulationEvent.rank inner) := by
  have priority : Priority.external = SimulationEvent.rank inner .clock := rfl
  exact ranked.schedule priority 0

/-- The bound on the events of a run that starts with these and the clock. -/
theorem begun_horizon {rig : Rig κ ρ μ (SimulationEvent ε)}
    {others : List (Nat × SimulationEvent ε)} (awaits : rig.events.Awaits others)
    (zero : rig.now = 0) (maxTicks : Nat) : (begun rig).rig.events.horizon maxTicks =
      3 * (maxTicks + 1) * (others.length + 1) + 1 := by
  have tick : (begun rig).rig.events.now = 0 := zero
  have size : (begun rig).rig.events.size = others.length + 1 :=
    (begun_ticking awaits zero).awaits.size_eq
  rw [EventQueue.horizon, tick, size, Nat.sub_zero]

theorem awaitingTick_ticking (sim : Simulation κ ρ μ ε)
    {others : List (Nat × SimulationEvent ε)} (awaits : sim.rig.events.Awaits others)
    (going : sim.clock.stopped = false) : sim.awaitingTick.Ticking (sim.now + 1) others where
  awaits := awaits.schedule (Nat.le_succ _) _ _
  soon := Nat.le_refl _
  going := going

/-- A run that has not ended has stalled if the clock is still to tick when the budget is spent. -/
theorem stalled_of_idle [Intermediary κ ε] [TrafficSource ρ] [ResponseSource μ]
    {sim : Simulation κ ρ μ ε} {limit clock : Nat} {others : List (Nat × SimulationEvent ε)}
    (awaits : sim.rig.events.Awaits ((clock, .clock) :: others)) (soon : clock ≤ sim.now + 1)
    (within : sim.now ≤ limit) (unfinished : sim.finishedAt = none)
    (idle : sim.rig.events.takeDue limit = none) :
    limit < clock ∧ sim.summary = .error (.stalled limit) := by
  have beyond : limit < clock := awaits.lt_of_idle idle List.mem_cons_self
  have now : sim.now = limit := by omega
  refine ⟨beyond, ?_⟩
  simp only [summary, unfinished, now]

/-- A run that stalls or arrives, and needs so many ticks to arrive, does so as the budget tells. -/
theorem ends_by_budget {limit ticks : Nat} {stalled arrived : Prop}
    (ended : limit < ticks ∧ stalled ∨ arrived) (within : arrived → ticks ≤ limit) :
    (limit < ticks → stalled) ∧ (ticks ≤ limit → arrived) := by
  rcases ended with ⟨less, stalls⟩ | arrives
  · exact ⟨fun _ => stalls, fun enough => absurd enough (Nat.not_le.2 less)⟩
  · exact ⟨fun less => absurd (within arrives) (Nat.not_le.2 less), fun _ => arrives⟩

theorem oversize?_eq_none {sim : Simulation κ RecordedRequester RecordedMemory ε} {bound : Nat}
    (times : sim.rig.TimesWithin bound) (fits : bound < UInt64.size) : sim.oversize? = none := by
  change (sim.rig.requester.peer.oversize?).or (sim.rig.memory.peer.oversize?) = none
  rw [RequestGenerator.oversize?_eq_none_iff.2 (Nat.lt_of_le_of_lt times.total fits),
    MemoryModel.oversize?_eq_none_iff.2 fun entry member =>
      Nat.lt_of_le_of_lt (times.due entry member) fits]
  rfl

/-- What an event does, it does unless a time that the peers keep is too large. -/
theorem handle_of_timesWithin [Intermediary κ ε] {faults : Fault → Prop} {bound : Nat}
    {event : SimulationEvent ε} {sim : Simulation κ RecordedRequester RecordedMemory ε}
    {holds : Option RunError × Simulation κ RecordedRequester RecordedMemory ε → Prop}
    (allows : Allows faults bound) (reacts : Gives faults (react event sim) fun result =>
      holds result ∧ result.2.rig.TimesWithin bound) : Gives faults (handle event sim) holds := by
  apply reacts.bind
  rintro ⟨failure, next⟩ ⟨kept, times⟩
  cases oversize : next.oversize? with
  | none =>
    simp only [oversize]
    exact .ok kept
  | some number =>
    simp only [oversize]
    refine allows _ ⟨⟨number, rfl⟩, ?_⟩
    by_contra fits
    cases oversize.symm.trans (oversize?_eq_none times (Nat.not_le.1 fits))

end Simulation

namespace Rig

variable {κ α : Type} {rig : Rig κ RecordedRequester RecordedMemory α} {config : BenchmarkConfig}
  {transit : Nat}

/-- The peers follow the configuration, and so many packets are on their way between them. -/
structure Conforms (config : BenchmarkConfig) (rig : Rig κ RecordedRequester RecordedMemory α)
    (transit : Nat) : Prop where
  regular : rig.requester.peer.Regular
  workload : rig.requester.peer.workload = config.workload
  memory : rig.memory.peer.config = config.memory
  count : rig.requester.peer.stats.issued =
    rig.requester.peer.stats.responses + rig.memory.peer.serving.length + transit
  served : ∀ entry ∈ rig.memory.peer.serving, entry.1 ≤ rig.now + config.memory.accessLatency

theorem assemble_conforms (component : κ) (line : 0 < config.workload.lineSize) :
    Conforms config (assemble component (Recorded.blank (RequestGenerator.fresh config.workload))
      (Recorded.blank (MemoryModel.idle config.memory)) : Rig κ _ _ α) 0 where
  regular := RequestGenerator.fresh_regular line
  workload := rfl
  memory := rfl
  count := rfl
  served := nofun

namespace Conforms

theorem wait (conforms : Conforms config rig transit) {events : EventQueue α}
    (passed : rig.now ≤ events.now) : Conforms config { rig with events } transit :=
  { conforms with
    served := fun entry member =>
      Nat.le_trans (conforms.served entry member) (Nat.add_le_add_right passed _) }

theorem release (conforms : Conforms config rig transit) {entry : Nat × Packet}
    {rest : List (Nat × Packet)} (serving : rig.memory.peer.serving = entry :: rest) :
    Conforms config { rig with memory := rig.memory.withServing rest } (transit + 1) where
  regular := conforms.regular
  workload := conforms.workload
  memory := conforms.memory
  count := by
    have count := conforms.count
    rw [serving, List.length_cons] at count
    simp only [RecordedMemory.withServing]
    omega
  served := by
    intro other member
    apply conforms.served
    rw [serving]
    exact List.mem_cons_of_mem _ member

theorem receive (conforms : Conforms config rig (transit + 1)) (packet : Packet) (now : Nat) :
    Conforms config { rig with requester := rig.requester.receiving packet now } transit where
  regular := { conforms.regular with }
  workload := conforms.workload
  memory := conforms.memory
  count := by
    have count := conforms.count
    have responses : (rig.requester.receiving packet now).peer.stats.responses =
        rig.requester.peer.stats.responses + 1 := rfl
    have issued : (rig.requester.receiving packet now).peer.stats.issued =
        rig.requester.peer.stats.issued := rfl
    simp only [responses, issued]
    omega
  served := conforms.served

theorem issue (conforms : Conforms config rig transit) {packet : Packet}
    {source : RequestGenerator} (offers : rig.requester.peer.Offers rig.now packet source) :
    Conforms config { rig with requester := { rig.requester with peer := source.accepted } }
      (transit + 1) := by
  obtain ⟨-, -, stats, workload⟩ := offers.after
  refine ⟨offers.accepted_regular conforms.regular, workload.trans conforms.workload,
    conforms.memory, ?_, conforms.served⟩
  have count := conforms.count
  simp only [RequestGenerator.accepted, stats]
  omega

theorem reject (conforms : Conforms config rig transit) {packet : Packet}
    {source : RequestGenerator} (offers : rig.requester.peer.Offers rig.now packet source) :
    Conforms config { rig with requester := { rig.requester with peer := source.rejected packet } }
      transit := by
  obtain ⟨-, -, stats, workload⟩ := offers.after
  refine ⟨offers.rejected_regular conforms.regular, workload.trans conforms.workload,
    conforms.memory, ?_, conforms.served⟩
  simp only [RequestGenerator.rejected, stats]
  exact conforms.count

theorem accept (conforms : Conforms config rig (transit + 1)) (packet answer : Packet) :
    Conforms config { rig with memory := rig.memory.accepting packet answer rig.now } transit where
  regular := conforms.regular
  workload := conforms.workload
  memory := conforms.memory
  count := by
    have count := conforms.count
    simp only [RecordedMemory.accepting, Recorded.note, List.length_append, List.length_singleton]
    omega
  served := by
    intro entry member
    rcases List.mem_append.1 member with old | new
    · exact conforms.served entry old
    · rw [List.mem_singleton.1 new, conforms.memory]
      exact Nat.le_refl _

/-- Once the requester waits for nothing, nothing is on its way. -/
theorem drained (conforms : Conforms config rig transit)
    (finished : rig.requester.peer.isFinished = true) :
    rig.requester.peer.stats.issued = config.workload.numRequests ∧
    rig.requester.peer.stats.responses = config.workload.numRequests ∧
    rig.memory.peer.serving = [] ∧ transit = 0 ∧ rig.requester.peer.held = none := by
  have count := conforms.count
  have issued := conforms.regular.issued
  have bounded := conforms.regular.bounded
  rw [RequestGenerator.isFinished_iff] at finished
  rw [conforms.workload] at finished bounded
  have held : rig.requester.peer.held.toList = [] := List.eq_nil_of_length_eq_zero (by omega)
  exact ⟨by omega, by omega, List.eq_nil_of_length_eq_zero (by omega), by omega,
    Option.toList_eq_nil_iff.1 held⟩

/-- While nothing is on its way, the next request can go out, or none is left. -/
theorem ready (conforms : Conforms config rig 0) (window : 0 < config.workload.maxOutstanding)
    (idle : rig.memory.peer.serving = []) (unfinished : rig.requester.peer.isFinished = false) :
    rig.requester.peer.held.isSome = true ∨ rig.requester.peer.canCreate = true := by
  have answered := conforms.count
  rw [idle] at answered
  rw [← conforms.workload] at window
  exact conforms.regular.ready window answered unfinished

end Conforms

/-- When the oldest response is still to come after a tick, and due by the deadline, then the next
tick is not too late. -/
theorem succ_le_deadline {serving : List (Nat × Packet)} {tick deadline : Nat}
    (busy : serving ≠ []) (later : ∀ entry ∈ serving.head?, tick < entry.1)
    (due : ∀ entry ∈ serving.head?, entry.1 ≤ deadline) : tick + 1 ≤ deadline := by
  obtain ⟨first, rest, rfl⟩ := List.exists_cons_of_ne_nil busy
  exact Nat.le_trans (later first rfl) (due first rfl)

end Rig

namespace Simulation

variable {κ ε : Type} [Intermediary κ ε] {config : BenchmarkConfig} {transit : Nat}
  {sim : Simulation κ RecordedRequester RecordedMemory ε}

/-- The run of a component with no work of its own is complete when the requester waits for
nothing. -/
theorem finish_of_conforms {idle : κ → Prop} (conforms : sim.rig.Conforms config transit)
    (finished : sim.rig.requester.peer.isFinished = true)
    (quiet : Intermediary.windDown sim.rig = sim.rig) (resting : idle sim.rig.component)
    (drained : transit = 0 → sim.rig.events.Awaits []) :
    Gives Overflow sim.finishOrContinue fun final =>
      (final.map Recorded.peer Recorded.peer).Complete config idle := by
  obtain ⟨issued, responses, serving, none, -⟩ := conforms.drained finished
  rw [finishOrContinue_of_finished finished, quiet]
  exact .ok {
    finished := rfl
    issued := issued
    responses := responses
    events := List.map_eq_nil_iff.1 (drained none).agenda.eq_nil
    served := congrArg List.length serving
    idle := resting }

/-- A run of a component completes if there is time enough for all the work, at its pace, and if at
most one event in a tick does no work, for each of those that are scheduled at first. -/
theorem completes_of_paced [Parametric κ] {component : κ}
    {others : List (Nat × SimulationEvent ε)} {idle : κ → Prop} {pace work turns maxTicks : Nat}
    {holds : Nat → Nat → Nat → Simulation κ RecordedRequester RecordedMemory ε → Prop}
    (ready : Gives Overflow (Intermediary.start (.assemble component
      (Recorded.blank (RequestGenerator.fresh config.workload))
      (Recorded.blank (MemoryModel.idle config.memory)))) fun rig =>
        rig.now = 0 ∧ rig.events.Awaits others ∧ holds work turns pace (begun rig))
    (paced : Paced maxTicks pace holds fun sim =>
      (sim.map Recorded.peer Recorded.peer).Complete config idle)
    (positive : 0 < pace) (few : turns ≤ (maxTicks + 1) * (others.length + 1))
    (budget : pace + pace * work ≤ maxTicks) : Completes component config idle maxTicks := by
  have unit : work ≤ pace * work := Nat.le_mul_of_pos_left work positive
  have some_event : maxTicks + 1 ≤ (maxTicks + 1) * (others.length + 1) :=
    Nat.le_mul_of_pos_right _ (Nat.succ_pos _)
  have begins : Gives Overflow (start component
      (Recorded.blank (RequestGenerator.fresh config.workload))
      (Recorded.blank (MemoryModel.idle config.memory))) fun sim =>
        work + turns + 1 < sim.rig.events.horizon maxTicks ∧ holds work turns pace sim := by
    apply start_gives
    apply ready.mono
    rintro rig ⟨zero, awaits, now⟩
    refine ⟨zero, ?_, now⟩
    rw [begun_horizon awaits zero, Nat.mul_assoc]
    omega
  exact .of_recorded (begins.bind fun _ ⟨enough, now⟩ => paced.run now budget enough)

end Simulation

end GatedMemory
