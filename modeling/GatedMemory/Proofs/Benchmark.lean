import GatedMemory.Proofs.Link.Timing
import GatedMemory.Proofs.PassThrough.Refusals
import GatedMemory.Proofs.PassThrough.Timing
import GatedMemory.Proofs.SecureModule.Completion
import GatedMemory.Proofs.SecureModule.Refusals
import GatedMemory.Proofs.SecureModule.Timing

set_option autoImplicit false

namespace GatedMemory

namespace BenchmarkConfig

theorem validate_eq_ok_iff {config : BenchmarkConfig} : config.validate = .ok () ↔
    config.secureModule.validate = .ok () ∧ config.link.validate = .ok () ∧
      config.memory.validate = .ok () ∧ config.workload.validate = .ok () := by
  unfold validate
  cases config.secureModule.validate with
  | error => simp [bind, Except.bind]
  | ok =>
    cases config.link.validate with
    | error => simp [bind, Except.bind]
    | ok => cases config.memory.validate <;> simp [bind, Except.bind]

theorem positive_of_validate {config : BenchmarkConfig} (valid : config.validate = .ok ()) :
    config.Positive := by
  obtain ⟨module, link, memory, workload⟩ := validate_eq_ok_iff.1 valid
  obtain ⟨requests, responses, period⟩ := SecureModuleConfig.validate_eq_ok_iff.1 module
  obtain ⟨line, window⟩ := Workload.pos_of_validate workload
  exact {
    requests := requests
    responses := responses
    period := period
    linkPeriod := LinkConfig.validate_eq_ok_iff.1 link
    outstanding := MemoryConfig.validate_eq_ok_iff.1 memory
    window := window
    line := line }

theorem workable_of_validate {config : BenchmarkConfig} (valid : config.validate = .ok ())
    (fits : config.secureModule.requestCapacity + 1 < 2 ^ 32) : config.Workable :=
  { positive_of_validate valid with fits := fits }

/-- One request, to a working set of which no word counts the bytes. -/
def vastWorkingSet : BenchmarkConfig where
  workload := { numRequests := 1, pattern := .strided 64, workingSetLines := 2 ^ 58 }

/-- Queues of one place each, behind a requester that sends two requests ahead. -/
def singlePlaces : BenchmarkConfig where
  secureModule := { requestCapacity := 1, responseCapacity := 1, clockPeriod := 3 }
  link := { clockPeriod := 2 }
  memory := { accessLatency := 5, maxOutstanding := 2 }
  workload := { numRequests := 4, maxOutstanding := 2 }

/-- Whatever the budgets, a run of the secure module takes longer than the baseline, and a run of
the link is not ahead of it. -/
theorem never_ahead (config : BenchmarkConfig) (valid : config.validate = .ok ())
    (some_request : 0 < config.workload.numRequests) :
    ∃ module link, SecureModule.build config.secureModule = .ok module ∧
      FixedLatencyLink.build config.link = .ok link ∧
      ∀ budget baseline, Simulation.Takes ({} : PassThrough) config budget baseline →
        (∀ maxTicks ticks, Simulation.Takes module config maxTicks ticks → baseline < ticks) ∧
        ∀ maxTicks ticks, Simulation.Takes link config maxTicks ticks → baseline ≤ ticks := by
  have positive := positive_of_validate valid
  obtain ⟨module, link, -, -⟩ := validate_eq_ok_iff.1 valid
  refine ⟨_, _, SecureModule.build_eq_ok module, FixedLatencyLink.build_eq_ok link, ?_⟩
  intro budget baseline takes
  have early := (Simulation.passThrough_concludes positive some_request budget).bound_of_takes takes
  refine ⟨fun maxTicks ticks takes => ?_, fun maxTicks ticks takes => ?_⟩
  · have late := (Simulation.module_concludes positive some_request maxTicks).bound_of_takes takes
    exact Nat.lt_of_le_of_lt early late
  · have late := (Simulation.link_concludes positive some_request maxTicks).bound_of_takes takes
    exact Nat.le_of_lt (Nat.lt_of_le_of_lt early late)

theorem never_ahead_single_places :
    singlePlaces.validate = .ok () ∧ 0 < singlePlaces.workload.numRequests ∧
    ∃ module link baseline guarded linked,
      SecureModule.build singlePlaces.secureModule = .ok module ∧
      FixedLatencyLink.build singlePlaces.link = .ok link ∧
      Simulation.Takes ({} : PassThrough) singlePlaces 1000 baseline ∧
      Simulation.Takes module singlePlaces 1000 guarded ∧
      Simulation.Takes link singlePlaces 1000 linked ∧
      baseline < guarded ∧ baseline ≤ linked := by
  have workable : singlePlaces.Workable := workable_of_validate rfl (by decide)
  obtain ⟨baseline, first⟩ : ∃ baseline,
      Simulation.Takes ({} : PassThrough) singlePlaces 1000 baseline :=
    (Simulation.passThrough_completes workable (by decide)).exists_takes (by decide +kernel)
  obtain ⟨guarded, second⟩ : ∃ guarded, Simulation.Takes
      (SecureModule.fresh singlePlaces.secureModule) singlePlaces 1000 guarded :=
    (Simulation.module_completes workable (by decide)).exists_takes (by decide +kernel)
  obtain ⟨linked, third⟩ : ∃ linked, Simulation.Takes
      (FixedLatencyLink.fresh singlePlaces.link) singlePlaces 1000 linked :=
    (Simulation.link_completes workable (by decide) (by decide)).exists_takes (by decide +kernel)
  obtain ⟨module, link, built, joined, later⟩ := never_ahead singlePlaces rfl (by decide)
  cases built
  cases joined
  obtain ⟨above, notBelow⟩ := later 1000 baseline first
  exact ⟨rfl, by decide, _, _, baseline, guarded, linked, rfl, rfl, first, second, third,
    above _ _ second, notBelow _ _ third⟩

/-- Whatever the budget, a run fails only if memory turns down a request that comes over the link.
Otherwise it ends when the last response comes, or it stalls because that is not within the budget.
The response is noticed at once with no component and with a secure module. With a link that has no
latency it may come after the clock has ticked, and then it is noticed one tick later. -/
theorem outcome_tells (config : BenchmarkConfig) (valid : config.validate = .ok ())
    (some_request : 0 < config.workload.numRequests) (maxTicks : Nat) :
    Simulation.Tells ({} : PassThrough) config maxTicks (fun _ => False) (fun delay => delay = 0) ∧
    (∃ module, SecureModule.build config.secureModule = .ok module ∧
      Simulation.Tells module config maxTicks (fun _ => False) fun delay => delay = 0) ∧
    ∃ link, FixedLatencyLink.build config.link = .ok link ∧
      Simulation.Tells link config maxTicks Simulation.LinkFails config.link.Delays := by
  have positive := positive_of_validate valid
  obtain ⟨module, link, -, -⟩ := validate_eq_ok_iff.1 valid
  refine ⟨?_, ⟨_, SecureModule.build_eq_ok module, ?_⟩, _, FixedLatencyLink.build_eq_ok link, ?_⟩
  · exact (Simulation.passThrough_concludes positive some_request maxTicks).tells
  · exact (Simulation.module_concludes positive some_request maxTicks).tells
  · exact (Simulation.link_concludes positive some_request maxTicks).tells

/-- One request over a link without latency, to a memory without latency. -/
def instantLink : BenchmarkConfig where
  link := { latency := 0 }
  memory := { accessLatency := 0 }
  workload := { numRequests := 1 }

theorem outcome_tells_instant_link :
    instantLink.validate = .ok () ∧ 0 < instantLink.workload.numRequests ∧
    ∃ link, FixedLatencyLink.build instantLink.link = .ok link ∧
      Simulation.Tells link instantLink 2 Simulation.LinkFails instantLink.link.Delays :=
  ⟨rfl, by decide, (outcome_tells instantLink rfl (by decide) 2).2.2⟩

/-- The only response comes at the first tick. The run is said to take two, and stalls when it is
given one. -/
theorem instant_link_noticed_late :
    ∃ link, FixedLatencyLink.build instantLink.link = .ok link ∧
    (∃ summary sim packet,
      Simulation.start link (Recorded.blank (RequestGenerator.fresh instantLink.workload))
        (Recorded.blank (MemoryModel.idle instantLink.memory)) >>= Simulation.run 2 =
          .ok (.ok summary, sim) ∧
      sim.rig.requester.receipts = [(1, packet)] ∧ summary.ticks = 2) ∧
    ∃ sim packet,
      Simulation.start link (Recorded.blank (RequestGenerator.fresh instantLink.workload))
        (Recorded.blank (MemoryModel.idle instantLink.memory)) >>= Simulation.run 1 =
          .ok (.error (.stalled 1), sim) ∧
      sim.rig.requester.receipts = [(1, packet)] :=
  ⟨_, rfl, ⟨_, _, _, rfl, rfl, rfl⟩, _, _, rfl, rfl⟩

/-- With a valid configuration no retry that memory sends is in vain, whether a secure module stands
before it or nothing. With nothing, the requester has in the end been refused as often as memory has
refused it, and as often been told to send again. -/
theorem retries_never_in_vain (config : BenchmarkConfig) (valid : config.validate = .ok ())
    (fits : config.secureModule.requestCapacity + 1 < 2 ^ 32) :
    Simulation.NeverInVain ({} : PassThrough) config ∧
    (∃ module, SecureModule.build config.secureModule = .ok module ∧
      Simulation.NeverInVain module config) ∧
    ∀ maxTicks, Gives Overflow (Simulation.start ({} : PassThrough)
        (RequestGenerator.fresh config.workload) (MemoryModel.idle config.memory) >>=
        Simulation.run maxTicks) fun result =>
      ∀ summary, result.1 = .ok summary →
        summary.requester.rejected = summary.memoryRejections ∧
          summary.memoryRejections = summary.requester.retriesReceived := by
  have positive := positive_of_validate valid
  obtain ⟨module, -⟩ := validate_eq_ok_iff.1 valid
  have opened : Gives Overflow (Simulation.start ({} : PassThrough)
      (Recorded.blank (RequestGenerator.fresh config.workload))
      (Recorded.blank (MemoryModel.idle config.memory))) (Simulation.InAccord config) :=
    Simulation.start_gives (.ok ⟨rfl, Simulation.begun_inAccord positive.line⟩)
  refine ⟨?_, ⟨_, SecureModule.build_eq_ok module, ?_⟩, fun maxTicks => ?_⟩
  · exact Simulation.neverInVain_of_preserves (Simulation.preserves_inAccord config)
      (fun _ accord => accord.heeds) opened
  · apply Simulation.neverInVain_of_preserves (Simulation.preserves_tallied config)
      fun _ ⟨_, tallied⟩ => Simulation.heeds_of_tallied tallied
    have opening := Simulation.opening_tallied positive.period positive.line fits
    exact Simulation.start_gives_of_opening positive.period ⟨none, opening⟩
  · have ran := opened.bind fun _ => (Simulation.preserves_inAccord config).run maxTicks
    rw [Simulation.run_eq_recorded]
    apply ran.map
    rintro ⟨outcome, final⟩ ⟨told, kept⟩ summary ended
    exact kept.summary_eq (told.symm.trans ended)

/-- A memory that serves one request at once. -/
def singleServer : BenchmarkConfig where
  memory := { accessLatency := 5, maxOutstanding := 1 }
  workload := { numRequests := 3 }

theorem retries_never_in_vain_single_server :
    singleServer.validate = .ok () ∧ singleServer.secureModule.requestCapacity + 1 < 2 ^ 32 ∧
    (∃ summary sim, Simulation.start ({} : PassThrough)
        (RequestGenerator.fresh singleServer.workload) (MemoryModel.idle singleServer.memory) >>=
          Simulation.run 100 = .ok (.ok summary, sim) ∧
      summary.requester.rejected = 2 ∧ summary.memoryRejections = 2 ∧
      summary.requester.retriesReceived = 2) ∧
    ∃ module sim, SecureModule.build singleServer.secureModule = .ok module ∧
      Simulation.start module (Recorded.blank (RequestGenerator.fresh singleServer.workload))
        (Recorded.blank (MemoryModel.idle singleServer.memory)) >>= Simulation.fireMany 21 =
          .ok sim ∧
      ∃ entry rest packet, sim.rig.events.pending = entry :: rest ∧ entry.tick = 9 ∧
        sim.rig.memory.refused.getLast? = some packet ∧
        Yields (Simulation.tick { sim with rig :=
          { sim.rig with events := sim.rig.events.after entry rest } }) fun result =>
          result.1 = none ∧ result.2.rig.memory.log =
            sim.rig.memory.log ++ [.offered 9 packet .accepted] := by
  obtain ⟨-, ⟨module, built, never⟩, tells⟩ :=
    retries_never_in_vain singleServer rfl (by decide)
  refine ⟨rfl, by decide, ?_, ?_⟩
  · have ran : ∃ summary sim, Simulation.start ({} : PassThrough)
        (RequestGenerator.fresh singleServer.workload) (MemoryModel.idle singleServer.memory) >>=
          Simulation.run 100 = .ok (.ok summary, sim) ∧ summary.memoryRejections = 2 :=
      ⟨_, _, rfl, rfl⟩
    obtain ⟨summary, sim, ran, rejections⟩ := ran
    obtain ⟨refused, retried⟩ := (tells 100).of_eq_ok ran summary rfl
    exact ⟨summary, sim, ran, refused.trans rejections, rejections, retried.symm.trans rejections⟩
  · obtain rfl : SecureModule.fresh singleServer.secureModule = module := Except.ok.inj built
    have due : ∃ sim entry rest served,
        Simulation.start (SecureModule.fresh singleServer.secureModule)
          (Recorded.blank (RequestGenerator.fresh singleServer.workload))
          (Recorded.blank (MemoryModel.idle singleServer.memory)) >>= Simulation.fireMany 21 =
            .ok sim ∧
        sim.rig.events.pending = entry :: rest ∧ entry.tick = 9 ∧ entry.payload = .clock ∧
        Simulation.serveResponse { sim.rig with events := sim.rig.events.after entry rest } =
          .ok served ∧ (ResponseSource.settleRetry served.memory).1 = true ∧
        (Simulation.tick { sim with rig :=
          { sim.rig with events := sim.rig.events.after entry rest } }).isOk = true :=
      ⟨_, _, _, _, rfl, rfl, rfl, rfl, rfl, rfl, rfl⟩
    obtain ⟨sim, entry, rest, served, fired, pending, nine, clock, serve, settles, ok⟩ := due
    have after := never.after 21
    have heeds := (after.of_eq_ok fired).2
    obtain ⟨packet, last, ticks⟩ := heeds.honours entry rest served pending clock serve settles
    exact ⟨_, sim, built, fired, entry, rest, packet, pending, nine, last,
      nine ▸ ticks.yields_of_isOk ok⟩

end BenchmarkConfig

end GatedMemory
