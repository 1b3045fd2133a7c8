import GatedMemory.Proofs.Benchmark
import GatedMemory.Proofs.Frugal
import GatedMemory.Proofs.SecureModule.Driver

set_option autoImplicit false

namespace GatedMemory

def SecureEvent.recurs : SecureEvent → Bool
  | .edge => true
  | .checkOver _ => false

def SecureModule.Ticks (module : SecureModule) : Prop :=
  0 < module.config.clockPeriod

def FixedLatencyLink.Ticks (link : FixedLatencyLink) : Prop :=
  0 < link.config.clockPeriod

theorem PassThrough.frugal : Frugal (fun _ : PassThrough => True) fun _ => false where
  start _ _ := .ok ⟨trivial, .nothing⟩
  windDown _ _ := ⟨trivial, .nothing⟩
  handle _ _ event := event.elim
  request _ _ _ := .ok ⟨trivial, .nothing, nofun⟩
  response _ _ _ := .ok ⟨trivial, .nothing⟩
  requestRetry _ _ := ⟨trivial, rfl⟩

section

variable {ρ μ α : Type}

theorem FixedLatencyLink.carrying_adds
    {rig : Rig FixedLatencyLink ρ μ (SimulationEvent LinkEvent)} (ticks : rig.component.Ticks)
    {allowed : Nat → LinkEvent → Prop} {event : LinkEvent}
    (able : allowed (arrivalTick rig) event) :
    rig.events.Adds (SimulationEvent.Inner allowed) (carrying rig event).events :=
  SimulationEvent.adds (Clock.le_edge ticks) able _

theorem FixedLatencyLink.handle_frame [ResponseSink ρ] [RequestSink μ] (event : LinkEvent)
    (rig : Rig FixedLatencyLink ρ μ α) :
    (handle event rig).2.component.config = rig.component.config ∧
      (handle event rig).2.events = rig.events ∧
      ∀ error ∈ (handle event rig).1, ¬ error.IsStall := by
  cases event with
  | requestArrives packet =>
    rw [handle]
    rcases RequestSink.offer packet rig.now rig.memory with ⟨_ | back, memory⟩
    · exact ⟨rfl, rfl, nofun⟩
    · refine ⟨rfl, rfl, fun error same => ?_⟩
      obtain rfl := Option.some.inj same
      exact id
  | responseArrives packet =>
    rw [handle, receiveResponse]
    split
    · exact ⟨rfl, rfl, nofun⟩
    · rcases ResponseSink.offer packet rig.now rig.requester with ⟨_ | back, requester⟩
      · exact ⟨rfl, rfl, nofun⟩
      · exact ⟨rfl, rfl, nofun⟩

end

theorem FixedLatencyLink.frugal : Frugal FixedLatencyLink.Ticks fun _ => false where
  start _ ticks := .ok ⟨ticks, .nothing⟩
  windDown _ ticks := ⟨ticks, .nothing⟩
  handle rig ticks event := by
    obtain ⟨config, events, failing⟩ := handle_frame event rig
    refine .ok ⟨?_, ?_, failing⟩
    · rw [Ticks, config]
      exact ticks
    · rw [events]
      exact .nothing
  request rig ticks packet := by
    apply ((request_gives rig ticks packet).weaken Allows.overflow).mono
    rintro _ rfl
    exact ⟨ticks, carrying_adds ticks rfl, nofun⟩
  response rig ticks packet := by
    apply ((response_gives rig ticks packet).weaken Allows.overflow).mono
    rintro _ rfl
    exact ⟨ticks, carrying_adds ticks rfl⟩
  requestRetry _ ticks := ⟨ticks, rfl⟩

theorem SecureModule.stop_drops {ρ μ α : Type} (rig : Rig SecureModule ρ μ α) :
    rig.events.Drops (stop rig).events := by
  change rig.events.Drops (rig.component.driver.pending.elim rig.events rig.events.cancel)
  cases rig.component.driver.pending with
  | none => exact .nothing
  | some id => exact .event id

/-- The driver is scheduled for a later tick, or not at all. -/
theorem SecureModule.scheduleEdge_adds {ρ μ : Type} (allowed : Nat → SecureEvent → Prop)
    {rig : Rig SecureModule ρ μ (SimulationEvent SecureEvent)} (ticks : rig.component.Ticks)
    (able : ∀ tick, rig.now < tick → allowed tick .edge) :
    Gives Overflow (scheduleEdge rig) fun next => next.component.Ticks ∧
      rig.events.Adds (SimulationEvent.Inner allowed) next.events := by
  cases free : rig.component.driver.canSchedule with
  | true =>
    have later : rig.now < Clock.edge rig.now 1 rig.component.config.clockPeriod :=
      Clock.lt_edge ticks Nat.one_pos
    apply (scheduleEdge_of_free ticks free).mono
    rintro _ rfl
    exact ⟨ticks, SimulationEvent.adds (Nat.le_of_lt later) (able _ later) _⟩
  | false =>
    apply (scheduleEdge_of_busy ticks free).mono
    rintro _ rfl
    exact ⟨ticks, .nothing⟩

theorem SecureModule.frugal : Frugal SecureModule.Ticks SecureEvent.recurs where
  start _ ticks := scheduleEdge_adds _ ticks fun _ _ => trivial
  windDown rig ticks := ⟨ticks, stop_drops rig⟩
  handle rig ticks event := by
    cases event with
    | checkOver slot => exact .ok ⟨ticks, .nothing, nofun⟩
    | edge =>
      have can : (edgeWork rig).component.Ticks := by
        rw [Ticks, edgeWork_config]
        exact ticks
      have later : ∀ tick, (edgeWork rig).now < tick →
          SecureEvent.edge.recurs = true ∧ rig.now < tick := by
        intro tick later
        rw [Rig.now, edgeWork_events] at later
        exact ⟨rfl, later⟩
      apply (scheduleEdge_adds
        (fun tick _ => SecureEvent.edge.recurs = true ∧ rig.now < tick) can later).bind
      rintro next ⟨still, adds⟩
      exact .ok ⟨still, edgeWork_events rig ▸ adds, nofun⟩
  request _ ticks packet := by
    apply (request_requests ticks packet).mono
    rintro result requests
    cases requests with
    | unclassified =>
      refine ⟨ticks, .nothing, fun error same => ?_⟩
      obtain rfl := Except.error.inj same
      exact id
    | admitted future => exact ⟨ticks, SimulationEvent.adds future rfl _, nofun⟩
    | refused => exact ⟨ticks, .nothing, nofun⟩
  response _ ticks _ := .ok ⟨ticks, .nothing⟩
  requestRetry _ ticks := ⟨ticks, rfl⟩

def RequestGenerator.Follows (workload : Workload) (source : RequestGenerator) : Prop :=
  source.workload = workload

theorem RequestGenerator.fresh_follows (workload : Workload) :
    (fresh workload).Follows workload :=
  rfl

theorem RequestGenerator.closed {workload : Workload} {faults : Fault → Prop}
    (overflows : ∀ fault, Overflow fault → faults fault)
    (unable : ∀ fault, workload.Faults fault → faults fault) :
    TrafficSource.Closed faults (Follows workload) where
  overflows := overflows
  offer _ _ _ same := same
  requestRetry _ same := same
  accepted _ same := same
  rejected _ _ same := same
  next now source same := by
    subst same
    apply ((source.next_gives now).weaken unable).mono
    rintro result nexts
    cases nexts with
    | idle => rfl
    | offers offers => exact offers.after.2.2.2

namespace Simulation

/-- The component's run between fresh peers comes to an end: no precondition is broken at its start
or later but that numbers fit into words, the loop of its events is over after finitely many of
them, and the run tells what the loop came to. -/
def Ends {κ ε : Type} [Intermediary κ ε] (component : κ) (config : BenchmarkConfig)
    (maxTicks : Nat) : Prop :=
  Gives Overflow (start component (RequestGenerator.fresh config.workload)
    (MemoryModel.idle config.memory)) fun sim => ∃ outcome, Drains maxTicks sim outcome ∧
      Gives Overflow outcome fun (failure, final) =>
        sim.run maxTicks = .ok (failure.elim final.summary .error, final)

theorem ends_of_frugal {κ ε : Type} [Intermediary κ ε] [Parametric κ] {able : κ → Prop}
    {recurs : ε → Bool} (frugal : Frugal (κ := κ) able recurs) {component : κ}
    (can : able component) {config : BenchmarkConfig} (line : 0 < config.workload.lineSize)
    (maxTicks : Nat) : Ends component config maxTicks := by
  have closed : TrafficSource.Closed Overflow (RequestGenerator.Follows config.workload) :=
    RequestGenerator.closed (fun _ => id) fun _ faults =>
      (RequestGenerator.exceeds_of_faults line faults).1
  apply (start_sane frugal can (RequestGenerator.fresh_follows config.workload)
    (MemoryModel.idle config.memory)).mono
  intro sim sane
  obtain ⟨drains, gives⟩ := advance_drains frugal closed sane maxTicks
  refine ⟨_, drains, ?_⟩
  apply gives.and_eq.mono
  rintro ⟨failure, final⟩ ⟨advanced, -⟩
  simp only [run, advanced, ok_bind]
  cases failure <;> rfl

end Simulation

namespace BenchmarkConfig

/-- The same configuration, with this many requests if a number is given. -/
def overriding (config : BenchmarkConfig) (requests : Option Nat) : BenchmarkConfig :=
  { config with
    workload := { config.workload with
      numRequests := requests.getD config.workload.numRequests } }

/-- With a valid configuration each component can be built, and its run comes to an end, whatever
the number of requests and the budget of ticks. -/
theorem runs_end (config : BenchmarkConfig) (valid : config.validate = .ok ())
    (requests : Option Nat) (maxTicks : Nat) :
    Simulation.Ends ({} : PassThrough) (config.overriding requests) maxTicks ∧
    (∃ link, FixedLatencyLink.build config.link = .ok link ∧
      Simulation.Ends link (config.overriding requests) maxTicks) ∧
    ∃ module, SecureModule.build config.secureModule = .ok module ∧
      Simulation.Ends module (config.overriding requests) maxTicks := by
  have positive := positive_of_validate valid
  obtain ⟨module, link, -, -⟩ := validate_eq_ok_iff.1 valid
  have line : 0 < (config.overriding requests).workload.lineSize := positive.line
  refine ⟨Simulation.ends_of_frugal PassThrough.frugal trivial line maxTicks,
    ⟨_, FixedLatencyLink.build_eq_ok link, ?_⟩, _, SecureModule.build_eq_ok module, ?_⟩
  · refine Simulation.ends_of_frugal FixedLatencyLink.frugal ?_ line maxTicks
    exact positive.linkPeriod
  · refine Simulation.ends_of_frugal SecureModule.frugal ?_ line maxTicks
    exact positive.period

/-- A link without latency, to a memory that serves one request at a time, under strided requests to
a small working set. -/
def stridedInstantLink : BenchmarkConfig where
  link := { latency := 0 }
  memory := { maxOutstanding := 1 }
  workload := { pattern := .strided 96, workingSetLines := 4 }

theorem runs_end_strided_instant_link :
    stridedInstantLink.validate = .ok () ∧
    Simulation.Ends ({} : PassThrough) (stridedInstantLink.overriding (some 50)) 30 ∧
    (∃ link, FixedLatencyLink.build stridedInstantLink.link = .ok link ∧
      Simulation.Ends link (stridedInstantLink.overriding (some 50)) 30) ∧
    ∃ module, SecureModule.build stridedInstantLink.secureModule = .ok module ∧
      Simulation.Ends module (stridedInstantLink.overriding (some 50)) 30 ∧
      (Simulation.start module
        (RequestGenerator.fresh (stridedInstantLink.overriding (some 50)).workload)
        (MemoryModel.idle stridedInstantLink.memory) >>= Simulation.run 30).isOk = true := by
  obtain ⟨baseline, linked, module, built, guarded⟩ :=
    runs_end stridedInstantLink rfl (some 50) 30
  obtain rfl : SecureModule.fresh stridedInstantLink.secureModule = module := Except.ok.inj built
  exact ⟨rfl, baseline, linked, _, built, guarded, by decide +kernel⟩

end BenchmarkConfig

end GatedMemory
