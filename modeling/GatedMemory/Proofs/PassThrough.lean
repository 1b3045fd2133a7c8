import GatedMemory.Proofs.Clocked
import GatedMemory.Proofs.PassThrough.Actions

set_option autoImplicit false

namespace GatedMemory

def BenchmarkConfig.passPace (config : BenchmarkConfig) : Nat :=
  config.memory.accessLatency + 2

def BenchmarkConfig.passBudget (config : BenchmarkConfig) : Nat :=
  config.passPace + config.passPace * (2 * config.workload.numRequests)

namespace Passage

variable {config : BenchmarkConfig} {rig : Passage}

def work (rig : Passage) : Nat :=
  2 * (rig.requester.peer.workload.numRequests - rig.requester.peer.stats.issued) +
    rig.memory.peer.serving.length

/-- What holds between any two actions. Nothing but memory keeps a packet back. -/
structure Steady (config : BenchmarkConfig) (rig : Passage) : Prop
    extends Rig.Conforms config rig 0 where
  unblocked : rig.memory.peer.responseBlocked = false
  awaits : rig.requester.peer.awaitsRetry = true → rig.memory.peer.owesRetry = true

namespace Steady

variable (steady : Steady config rig)
include steady

theorem serve {next : Passage} (serves : rig.Serves next) : Steady config next ∧
    next.events = rig.events ∧ (next.work < rig.work ∨
      next = rig ∧ ∀ entry ∈ rig.memory.peer.serving.head?, rig.now < entry.1) := by
  cases serves with
  | idle quiet =>
    rcases quiet with blocked | later
    · rw [steady.unblocked] at blocked
      cases blocked
    · exact ⟨steady, rfl, .inr ⟨rfl, later⟩⟩
  | @passed due answer rest unblocked serving ready =>
    have passed := (steady.toConforms.release serving).receive answer rig.now
    refine ⟨{ passed with unblocked := unblocked, awaits := steady.awaits }, rfl, .inl ?_⟩
    change 2 * (rig.requester.peer.workload.numRequests - rig.requester.peer.stats.issued) +
      rest.length < rig.work
    rw [work, serving, List.length_cons]
    omega

/-- A requester that waits is told as soon as memory has room. -/
theorem retry {next : Passage} (retries : rig.Retries next) : Steady config next ∧
    next.events = rig.events ∧ next.work = rig.work ∧
    next.memory.peer.serving = rig.memory.peer.serving ∧
    (next.requester.peer.awaitsRetry = true → next.memory.peer.hasRoom = false) := by
  cases retries with
  | idle quiet =>
    refine ⟨steady, rfl, rfl, rfl, fun awaits => ?_⟩
    rcases quiet with none | full
    · rw [steady.awaits awaits] at none
      cases none
    · exact full
  | passed =>
    exact ⟨{ steady with regular := { steady.regular with }, awaits := nofun }, rfl, rfl, rfl,
      nofun⟩

/-- A turn in which no request enters memory finds the window or memory full, or nothing is left to
send. -/
theorem crowded (idle : rig.memory.peer.hasRoom = false ∨
      rig.requester.peer.held = none ∧ rig.requester.peer.canCreate = false)
    (more : rig.requester.peer.stats.issued < config.workload.numRequests) :
    min config.workload.maxOutstanding config.memory.maxOutstanding ≤
      rig.memory.peer.serving.length := by
  rcases idle with full | ⟨held, none⟩
  · have busy := mt RecordedMemory.hasRoom_iff.2 (Bool.eq_false_iff.1 full)
    rw [steady.memory] at busy
    omega
  · have busy := mt RequestGenerator.canCreate_iff.2 (Bool.eq_false_iff.1 none)
    have issued := steady.regular.issued
    have count := steady.count
    rw [held, Option.toList_none, List.length_nil] at issued
    rw [steady.workload, RequestGenerator.inFlight] at busy
    omega

theorem issue {next : Passage} (issues : rig.Issues next)
    (told : rig.requester.peer.awaitsRetry = true → rig.memory.peer.hasRoom = false) :
    Steady config next ∧ next.events = rig.events ∧
      (next.work < rig.work ∨ next.work = rig.work ∧
        next.memory.peer.serving = rig.memory.peer.serving ∧
        (next.requester.peer.stats.issued < config.workload.numRequests →
          min config.workload.maxOutstanding config.memory.maxOutstanding ≤
            rig.memory.peer.serving.length)) := by
  cases issues with
  | idle quiet => exact ⟨steady, rfl, .inr ⟨rfl, rfl, steady.crowded (quiet.imp_left told)⟩⟩
  | @accepted packet answer source offers room answered =>
    obtain ⟨-, free, stats, workload⟩ := offers.after
    have more := offers.created_eq steady.regular ▸ offers.created_le steady.regular
    have passed := (steady.toConforms.issue offers).accept packet answer
    refine ⟨{ passed with unblocked := steady.unblocked, awaits := fun awaits => ?_ }, rfl, .inl ?_⟩
    · rw [show source.awaitsRetry = true from awaits] at free
      cases free
    · change 2 * (source.workload.numRequests - (source.stats.issued + 1)) +
        (rig.memory.peer.serving ++ [_]).length < rig.work
      rw [work, stats, workload, List.length_append, List.length_singleton]
      omega
  | @refused packet source offers full =>
    obtain ⟨-, -, stats, workload⟩ := offers.after
    refine ⟨{ steady.reject offers with
      unblocked := steady.unblocked, awaits := fun _ => rfl }, rfl,
      .inr ⟨?_, rfl, fun more => steady.crowded (.inl full) (offers.rejected_issued ▸ more)⟩⟩
    change 2 * (source.workload.numRequests - source.stats.issued) +
      rig.memory.peer.serving.length = rig.work
    rw [work, stats, workload]

end Steady

theorem Serves.regular {next : Passage} (serves : rig.Serves next)
    (regular : rig.requester.peer.Regular) : next.requester.peer.Regular := by
  cases serves with
  | idle => exact regular
  | passed => exact { regular with }

theorem Retries.regular {next : Passage} (retries : rig.Retries next)
    (regular : rig.requester.peer.Regular) : next.requester.peer.Regular := by
  cases retries with
  | idle => exact regular
  | passed => exact { regular with }

theorem Serves.workload {next : Passage} (serves : rig.Serves next) :
    next.requester.peer.workload = rig.requester.peer.workload := by
  cases serves <;> rfl

theorem Retries.workload {next : Passage} (retries : rig.Retries next) :
    next.requester.peer.workload = rig.requester.peer.workload := by
  cases retries <;> rfl

/-- A tick gives memory, the retry and the requester their turns, one after the other. -/
theorem turns_of_regular (regular : rig.requester.peer.Regular) :
    Gives (Exceeds rig.requester.peer.workload.reach) (Simulation.turns rig) fun result =>
      result.1 = none ∧
      ∃ served retried : Passage,
        rig.Serves served ∧ served.Retries retried ∧ retried.Issues result.2 := by
  apply (serveResponse_serves rig).bind
  intro served serves
  have retries := passRetry_retries served
  have again := retries.regular (serves.regular regular)
  have workload := retries.workload.trans serves.workload
  rw [← workload]
  apply (issueRequest_issues again).mono
  rintro result ⟨none, issues⟩
  exact ⟨none, served, _, serves, retries, issues⟩

/-- After a tick that does no work, memory is still at its oldest request, or the run is over. -/
theorem Steady.tick (steady : Steady config rig) (workable : config.Workable) :
    Gives Overflow (Simulation.turns rig) fun result => result.1 = none ∧
      Steady config result.2 ∧ result.2.events = rig.events ∧
      (work result.2 < rig.work ∨ work result.2 = rig.work ∧
        result.2.memory.peer.serving = rig.memory.peer.serving ∧
        (∀ entry ∈ rig.memory.peer.serving.head?, rig.now < entry.1) ∧
        (rig.memory.peer.serving = [] → result.2.requester.peer.isFinished = true)) := by
  apply ((turns_of_regular steady.regular).weaken Allows.overflow).mono
  rintro ⟨_, issued⟩ ⟨rfl, served, retried, serves, retries, issues⟩
  obtain ⟨first, servedEvents, serving⟩ := steady.serve serves
  obtain ⟨second, retriedEvents, retriedWork, kept, told⟩ := first.retry retries
  obtain ⟨third, issuedEvents, issuing⟩ := second.issue issues told
  refine ⟨rfl, third, issuedEvents.trans (retriedEvents.trans servedEvents), ?_⟩
  rw [retriedWork] at issuing
  rcases serving with less | ⟨rfl, later⟩ <;> rcases issuing with less' | ⟨same, kept', crowded⟩
  case inr.inr =>
    refine .inr ⟨same, kept'.trans kept, later, fun idle => ?_⟩
    have count := third.count
    have empty : retried.memory.peer.serving = [] := kept.trans idle
    rw [empty, List.length_nil] at crowded
    rw [kept', empty, List.length_nil] at count
    have window := workable.window
    have outstanding := workable.outstanding
    rw [RequestGenerator.isFinished_iff, third.workload]
    omega
  all_goals exact .inl (by omega)

end Passage

namespace Simulation

variable {config : BenchmarkConfig} {limit : Nat}
  {sim : Simulation PassThrough RecordedRequester RecordedMemory Empty}

/-- Between two ticks. By the deadline the clock comes, and the oldest response is due. -/
structure Passing (config : BenchmarkConfig) (limit work turns deadline : Nat)
    (sim : Simulation PassThrough RecordedRequester RecordedMemory Empty) (clock : Nat) : Prop where
  steady : Passage.Steady config sim.rig
  ticking : sim.Ticking clock []
  left : Passage.work sim.rig = work
  turns : limit + 1 - clock ≤ turns
  clockDue : clock ≤ deadline
  served : ∀ entry ∈ sim.rig.memory.peer.serving.head?, entry.1 ≤ deadline

theorem Passing.step {work turns deadline clock : Nat}
    (passing : Passing config limit work turns deadline sim clock) (workable : config.Workable)
    {entry : EventEntry (SimulationEvent Empty)} {rest : List (EventEntry (SimulationEvent Empty))}
    (pending : sim.rig.events.pending = entry :: rest) (within : entry.tick ≤ limit) :
    Gives Overflow (handle entry.payload
        { sim with rig := { sim.rig with events := sim.rig.events.after entry rest } })
      fun result => result.1 = none ∧
        ((result.2.map Recorded.peer Recorded.peer).Complete config (fun _ => True) ∨
          (∃ less < work, ∃ clock,
            Passing config limit less turns (entry.tick + config.passPace) result.2 clock) ∨
          ∃ fewer < turns, ∃ clock, Passing config limit work fewer deadline result.2 clock) := by
  have awaits := passing.ticking.awaits
  obtain ⟨rfl, payload⟩ := Prod.mk.inj (List.mem_singleton.1 (awaits.fires pending))
  have fired : (sim.rig.events.after entry rest).Awaits [] :=
    awaits.fire pending (.of_eq (by rw [payload]))
  let before : Passage := { sim.rig with events := sim.rig.events.after entry rest }
  have elapsed : sim.rig.now ≤ before.events.now := awaits.now_le pending
  have passed : Passage.Steady config before :=
    { passing.steady.toConforms.wait elapsed with
      unblocked := passing.steady.unblocked
      awaits := passing.steady.awaits }
  rw [payload]
  apply handle_gives
  apply tick_gives
  apply (Passage.Steady.tick passed workable).mono
  rintro ⟨_, next⟩ ⟨rfl, steady, events, progress⟩
  simp only at steady events progress
  refine ⟨rfl, ?_⟩
  have awaited : next.events.Awaits [] := events ▸ fired
  have now : next.now = entry.tick := congrArg EventQueue.now events
  let after : Simulation PassThrough RecordedRequester RecordedMemory Empty :=
    ⟨next, sim.clock.occurred, sim.finishedAt⟩
  cases finished : next.requester.peer.isFinished with
  | true =>
    have complete : Gives Overflow after.finishOrContinue fun final =>
        (final.map Recorded.peer Recorded.peer).Complete config fun _ => True :=
      finish_of_conforms steady.toConforms finished rfl trivial fun _ => awaited
    exact complete.mono fun final complete => ⟨rfl, .inl complete⟩
  | false =>
    have left : Passage.work before = work := passing.left
    have bound := passing.turns
    have ticking := awaitingTick_ticking after awaited passing.ticking.going
    have afterNow : after.now = entry.tick := now
    apply (finishOrContinue_of_free finished
      (RepeatingEvent.canSchedule_occurred passing.ticking.going)).mono
    rintro _ rfl
    refine ⟨rfl, .inr ?_⟩
    rcases progress with less | ⟨same, serving, later, ended⟩
    · refine .inl ⟨_, left ▸ less, _, { steady with }, ticking, rfl, ?_, ?_, ?_⟩
      · omega
      · unfold BenchmarkConfig.passPace
        omega
      · intro first member
        have soon := steady.served first (List.mem_of_mem_head? member)
        unfold BenchmarkConfig.passPace
        omega
    · refine .inr ⟨limit + 1 - (entry.tick + 1), by omega, _, { steady with }, ticking,
        same.trans left, ?_, ?_, ?_⟩
      · omega
      · have busy : sim.rig.memory.peer.serving ≠ [] := by
          intro idle
          have finishes := ended idle
          rw [finished] at finishes
          cases finishes
        have soon : entry.tick + 1 ≤ deadline := Rig.succ_le_deadline busy later passing.served
        omega
      · intro first member
        apply passing.served
        rw [← show next.memory.peer.serving = sim.rig.memory.peer.serving from serving]
        exact member

theorem passing_paced (workable : config.Workable) (limit : Nat) : Paced limit config.passPace
    (fun work turns deadline sim => ∃ clock, Passing config limit work turns deadline sim clock)
    fun sim => (sim.map Recorded.peer Recorded.peer).Complete config fun _ => True where
  step := by
    rintro work turns deadline sim entry rest ⟨clock, passing⟩ pending within
    exact passing.step workable pending within
  soon := by
    rintro work turns deadline sim ⟨clock, passing⟩
    exact passing.ticking.awaits.exists_first List.mem_cons_self passing.clockDue
  drained complete := complete.events

/-- With enough ticks, the run of the component that does nothing completes. -/
theorem passThrough_completes (workable : config.Workable) {maxTicks : Nat}
    (budget : config.passBudget ≤ maxTicks) :
    Completes ({} : PassThrough) config (fun _ => True) maxTicks := by
  let rig : Passage := .assemble {} (Recorded.blank (RequestGenerator.fresh config.workload))
    (Recorded.blank (MemoryModel.idle config.memory))
  have conforms : Rig.Conforms config rig 0 := Rig.assemble_conforms PassThrough.mk workable.line
  have steady : Passage.Steady config rig :=
    { conforms with unblocked := rfl, awaits := nofun }
  have ticking : (begun rig).Ticking 0 [] := begun_ticking EventQueue.awaits_empty rfl
  have passing : Passing config maxTicks (2 * config.workload.numRequests) (maxTicks + 1)
      config.passPace (begun rig) 0 := {
    steady := { steady with }
    ticking := ticking
    left := rfl
    turns := Nat.le_refl _
    clockDue := Nat.zero_le _
    served := nofun }
  exact completes_of_paced (.ok ⟨rfl, EventQueue.awaits_empty, ⟨0, passing⟩⟩)
    (passing_paced workable maxTicks) (Nat.succ_pos _) (Nat.le_of_eq (Nat.mul_one _).symm) budget

end Simulation

end GatedMemory
