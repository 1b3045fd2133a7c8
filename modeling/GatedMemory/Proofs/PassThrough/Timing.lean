import GatedMemory.Proofs.PassThrough
import GatedMemory.Proofs.Reports
import GatedMemory.Proofs.Schedule

set_option autoImplicit false

namespace GatedMemory

namespace Passage

variable {config : BenchmarkConfig} {rig next : Passage} {answering issuing : Nat}

/-- Memory does not fall behind the schedule: the next response comes in time if it does not leave
before the tick `answering`, and the next request if it does not enter before the tick `issuing`. -/
structure Leads (config : BenchmarkConfig) (rig : Passage) (answering issuing : Nat) : Prop
    extends Steady config rig where
  answer : rig.requester.peer.stats.responses < config.workload.numRequests →
    answering ≤ config.answerTick rig.requester.peer.stats.responses
  issue : rig.requester.peer.stats.issued < config.workload.numRequests →
    issuing ≤ config.acceptTick rig.requester.peer.stats.issued
  timely : ∀ place entry, rig.memory.peer.serving[place]? = some entry →
    entry.1 ≤ config.acceptTick (rig.requester.peer.stats.responses + place) +
      config.memory.accessLatency

namespace Leads

/-- If no response leaves memory, the next one was not due yet. -/
theorem serve (leads : Leads config rig rig.now rig.now) (positive : config.Positive)
    (serves : rig.Serves next) : Leads config next (rig.now + 1) rig.now := by
  have steady := (leads.toSteady.serve serves).1
  cases serves with
  | idle quiet =>
    refine { leads with answer := fun more => ?_ }
    have soon := leads.answer more
    have count := leads.count
    have wait : 1 ≤ config.turnaround := Nat.le_max_right _ _
    have latency : config.memory.accessLatency ≤ config.turnaround := Nat.le_max_left _ _
    cases serving : rig.memory.peer.serving with
    | nil =>
      rw [serving, List.length_nil] at count
      have same : rig.requester.peer.stats.issued = rig.requester.peer.stats.responses := count
      have issue := leads.issue (same ▸ more)
      rw [same] at issue
      unfold BenchmarkConfig.answerTick
      omega
    | cons first rest =>
      have timely := leads.timely 0 first (by rw [serving]; rfl)
      rw [Nat.add_zero] at timely
      rcases quiet with blocked | later
      · rw [leads.unblocked] at blocked
        cases blocked
      · have later := later first (by rw [serving]; rfl)
        unfold BenchmarkConfig.answerTick
        omega
  | @passed due answer rest unblocked serving ready =>
    have responses : (rig.requester.receiving answer rig.now).peer.stats.responses =
        rig.requester.peer.stats.responses + 1 := rfl
    refine { steady with answer := ?_, issue := leads.issue, timely := ?_ }
    · simp only [responses]
      intro more
      have soon := leads.answer (Nat.lt_of_succ_lt more)
      have later := positive.answerTick_lt_succ rig.requester.peer.stats.responses
      omega
    · intro place entry found
      have timely := leads.timely (place + 1) entry (by rw [serving]; exact found)
      simp only [responses]
      rwa [Nat.add_assoc, Nat.add_comm 1 place]

theorem retry (leads : Leads config rig answering issuing) (retries : rig.Retries next) :
    Leads config next answering issuing := by
  have steady := (leads.toSteady.retry retries).1
  cases retries with
  | idle => exact leads
  | passed =>
    exact { steady with answer := leads.answer, issue := leads.issue, timely := leads.timely }

/-- If no request enters memory, then a whole batch is in service, and the next request has to wait
for an answer. -/
theorem request (leads : Leads config rig (rig.now + 1) rig.now) (positive : config.Positive)
    (told : rig.requester.peer.awaitsRetry = true → rig.memory.peer.hasRoom = false)
    (issues : rig.Issues next) : Leads config next (rig.now + 1) (rig.now + 1) := by
  have steady := (leads.toSteady.issue issues told).1
  have count := leads.count
  have waits : rig.requester.peer.stats.issued < config.workload.numRequests →
      min config.workload.maxOutstanding config.memory.maxOutstanding ≤
        rig.memory.peer.serving.length →
      rig.now + 1 ≤ config.acceptTick rig.requester.peer.stats.issued := by
    intro more crowded
    have batch : config.batch ≤ min config.workload.maxOutstanding config.memory.maxOutstanding :=
      Nat.min_le_left _ _
    have soon := leads.answer (by omega)
    rw [← positive.acceptTick_add_batch] at soon
    exact Nat.le_trans soon (positive.strictMono_acceptTick.monotone (by omega))
  cases issues with
  | idle quiet =>
    exact { leads with
      issue := fun more => waits more (leads.crowded (quiet.imp_left told) more) }
  | @accepted packet answer source offers room answered =>
    have more : rig.requester.peer.stats.issued < config.workload.numRequests := by
      have created := offers.created_le leads.regular
      rw [offers.created_eq leads.regular, leads.workload] at created
      exact created
    have soon := leads.issue more
    refine { steady with answer := ?_, issue := ?_, timely := ?_ }
    · simp only [offers.accepted_responses]
      exact leads.answer
    · simp only [offers.accepted_issued]
      intro _
      have later := positive.acceptTick_lt_succ rig.requester.peer.stats.issued
      omega
    · intro place entry found
      simp only [offers.accepted_responses]
      simp only [RecordedMemory.accepting, Recorded.note] at found
      rcases Nat.lt_or_ge place rig.memory.peer.serving.length with old | new
      · rw [List.getElem?_append_left old] at found
        exact leads.timely place entry found
      · rw [List.getElem?_append_right new, List.getElem?_singleton] at found
        split at found
        case isTrue zero =>
          obtain rfl := Option.some.inj found
          have number : rig.requester.peer.stats.responses + place =
              rig.requester.peer.stats.issued := by omega
          rw [number, leads.memory]
          exact Nat.add_le_add_right soon _
        case isFalse => cases found
  | @refused packet source offers full =>
    refine { steady with answer := ?_, issue := ?_, timely := ?_ }
    · simp only [offers.rejected_responses]
      exact leads.answer
    · simp only [offers.rejected_issued]
      exact fun more => waits more (leads.crowded (.inl full) more)
    · simp only [offers.rejected_responses]
      exact leads.timely

end Leads

theorem Serves.accounted (serves : rig.Serves next) (accounted : rig.requester.Accounted) :
    next.requester.Accounted := by
  cases serves with
  | idle => exact accounted
  | @passed due answer rest => exact accounted.receive answer rig.now

theorem Retries.accounted (retries : rig.Retries next) (accounted : rig.requester.Accounted) :
    next.requester.Accounted := by
  cases retries with
  | idle => exact accounted
  | passed => exact accounted.resume

theorem Issues.accounted (issues : rig.Issues next) (accounted : rig.requester.Accounted) :
    next.requester.Accounted := by
  cases issues with
  | idle => exact accounted
  | accepted offers => exact accounted.issue offers
  | refused offers => exact accounted.reject offers

/-- A response that is passed on when the last one is missing comes at this tick. -/
theorem Serves.last (serves : rig.Serves next) {requests : Nat}
    (missing : rig.requester.receipts[requests - 1]? = none) :
    ∀ receipt ∈ next.requester.receipts[requests - 1]?, receipt.1 = rig.now := by
  cases serves with
  | idle =>
    intro receipt found
    cases missing.symm.trans found
  | passed => exact RecordedRequester.last_receipt missing

theorem Retries.receipts (retries : rig.Retries next) :
    next.requester.receipts = rig.requester.receipts := by
  cases retries with
  | idle => rfl
  | passed => exact RecordedRequester.receipts_resuming

theorem Issues.receipts (issues : rig.Issues next) :
    next.requester.receipts = rig.requester.receipts := by
  cases issues <;> rfl

/-- A tick at which the last response is still missing. -/
theorem Leads.tick (leads : Leads config rig rig.now rig.now) (positive : config.Positive)
    (accounted : rig.requester.Accounted)
    (missing : rig.requester.receipts[config.workload.numRequests - 1]? = none) :
    Gives Overflow (Simulation.turns rig) fun result => result.1 = none ∧
      Leads config result.2 (rig.now + 1) (rig.now + 1) ∧ result.2.events = rig.events ∧
      result.2.requester.Accounted ∧
      ∀ receipt ∈ result.2.requester.receipts[config.workload.numRequests - 1]?,
        receipt.1 = rig.now := by
  apply ((turns_of_regular leads.regular).weaken Allows.overflow).mono
  rintro ⟨_, issued⟩ ⟨rfl, served, retried, serves, retries, issues⟩
  have first := leads.serve positive serves
  have second := first.retry retries
  have told := (first.toSteady.retry retries).2.2.2.2
  have events : retried.events = rig.events := retries.events.trans serves.events
  have now : retried.now = rig.now := congrArg EventQueue.now events
  rw [← now] at second
  have third := second.request positive told issues
  rw [now] at third
  refine ⟨rfl, third, issues.events.trans events,
    issues.accounted (retries.accounted (serves.accounted accounted)), ?_⟩
  rw [issues.receipts, retries.receipts]
  exact serves.last missing

end Passage

namespace Simulation

variable {config : BenchmarkConfig} {limit clock : Nat}
  {sim : Simulation PassThrough RecordedRequester RecordedMemory Empty}

/-- Between two ticks of a run that keeps to the schedule. -/
structure Swift (config : BenchmarkConfig) (limit : Nat)
    (sim : Simulation PassThrough RecordedRequester RecordedMemory Empty) (clock : Nat) : Prop
    extends sim.Going config (fun delay => delay = 0) limit clock [] where
  leads : Passage.Leads config sim.rig clock clock
  missing : sim.rig.requester.receipts[config.workload.numRequests - 1]? = none

/-- A run keeps up with the schedule while it goes on, and it ended in time. -/
def KeepsUp (config : BenchmarkConfig) (limit measure : Nat)
    (sim : Simulation PassThrough RecordedRequester RecordedMemory Empty) : Prop :=
  (∃ clock, Swift config limit sim clock ∧ limit + 1 - clock ≤ measure) ∨
    sim.rig.events.pending = [] ∧ ∃ ticks,
      sim.Finished config (fun delay => delay = 0) limit ticks ∧
        ticks ≤ config.answerTick (config.workload.numRequests - 1)

theorem Swift.step (swift : Swift config limit sim clock) (positive : config.Positive)
    (some_request : 0 < config.workload.numRequests)
    {entry : EventEntry (SimulationEvent Empty)} {rest : List (EventEntry (SimulationEvent Empty))}
    (pending : sim.rig.events.pending = entry :: rest) (within : entry.tick ≤ limit) :
    Gives Overflow (handle entry.payload
        { sim with rig := { sim.rig with events := sim.rig.events.after entry rest } })
      fun result => result.1 = none ∧ KeepsUp config limit (limit - clock) result.2 := by
  have awaits := swift.awaits
  obtain ⟨rfl, payload⟩ := Prod.mk.inj (List.mem_singleton.1 (awaits.fires pending))
  have fired : (sim.rig.events.after entry rest).Awaits [] :=
    awaits.fire pending (.of_eq (by rw [payload]))
  let before : Passage := { sim.rig with events := sim.rig.events.after entry rest }
  have elapsed : sim.rig.now ≤ before.events.now := awaits.now_le pending
  have passed : Passage.Leads config before before.now before.now :=
    { swift.leads with served := (swift.leads.toConforms.wait elapsed).served }
  rw [payload]
  apply handle_gives
  apply tick_gives
  apply (passed.tick positive swift.accounted swift.missing).mono
  rintro ⟨_, next⟩ ⟨rfl, leads, events, accounted, last⟩
  simp only at leads events accounted last
  refine ⟨rfl, ?_⟩
  have now : next.now = entry.tick := congrArg EventQueue.now events
  let after : Simulation PassThrough RecordedRequester RecordedMemory Empty :=
    ⟨next, sim.clock.occurred, sim.finishedAt⟩
  have awaited : after.rig.events.Awaits [] := events ▸ fired
  have inside : after.now ≤ limit := Nat.le_trans (Nat.le_of_eq now) within
  have notices : Notices config (fun delay => delay = 0) next.requester after.now :=
    fun receipt found => ⟨0, rfl, now.trans (last receipt found).symm⟩
  have concluded := Going.conclude some_request awaited
    (RepeatingEvent.canSchedule_occurred swift.going) swift.going swift.unfinished inside
    leads.workload accounted notices
  apply concluded.mono
  rintro final (⟨finished, rfl, done⟩ | ⟨missing, rfl, going⟩)
  · have drained : next.events.pending = [] := by
      rw [events]
      exact List.map_eq_nil_iff.1 fired.agenda.eq_nil
    refine ⟨rfl, .inr ⟨drained, after.now, done rfl, ?_⟩⟩
    have unfinished : sim.rig.requester.peer.stats.responses < config.workload.numRequests := by
      have length := List.getElem?_eq_none_iff.1 swift.missing
      rw [swift.accounted]
      omega
    have soon := swift.leads.answer unfinished
    rw [show after.now = entry.tick from now]
    exact Nat.le_trans soon (positive.strictMono_answerTick.monotone (by omega))
  · have kept : Passage.Leads config next (entry.tick + 1) (entry.tick + 1) := leads
    rw [show after.now = entry.tick from now] at going
    exact ⟨rfl, .inl ⟨entry.tick + 1, { going with leads := { kept with }, missing := missing },
      by omega⟩⟩

theorem keepsUp_descends (positive : config.Positive)
    (some_request : 0 < config.workload.numRequests) (limit : Nat) :
    Descends Overflow limit (fun _ => False) (KeepsUp config limit) := by
  rintro measure sim entry rest (⟨clock, swift, enough⟩ | ⟨drained, -⟩) pending within
  · have due := swift.awaits.fires pending
    obtain ⟨rfl, -⟩ := Prod.mk.inj (List.mem_singleton.1 due)
    apply (swift.step positive some_request pending within).mono
    rintro result ⟨none, next⟩
    exact ⟨limit - entry.tick, by omega, .inr ⟨none, next⟩⟩
  · rw [drained] at pending
    cases pending

theorem assemble_leads (positive : config.Positive) : Passage.Leads config
    (.assemble {} (Recorded.blank (RequestGenerator.fresh config.workload))
      (Recorded.blank (MemoryModel.idle config.memory))) 0 0 :=
  { (Rig.assemble_conforms PassThrough.mk positive.line : Rig.Conforms config _ 0) with
    unblocked := rfl
    awaits := nofun
    answer := fun _ => Nat.zero_le _
    issue := fun _ => Nat.zero_le _
    timely := nofun }

/-- The run of the component that does nothing ends no later than the schedule says. -/
theorem passThrough_concludes (positive : config.Positive)
    (some_request : 0 < config.workload.numRequests) (maxTicks : Nat) :
    Concludes ({} : PassThrough) config maxTicks (fun _ => False) (fun delay => delay = 0)
      fun ticks => ticks ≤ config.answerTick (config.workload.numRequests - 1) := by
  let rig : Passage := .assemble {} (Recorded.blank (RequestGenerator.fresh config.workload))
    (Recorded.blank (MemoryModel.idle config.memory))
  have leads : Passage.Leads config rig 0 0 := assemble_leads positive
  have ticking : (begun rig).Ticking 0 [] := begun_ticking EventQueue.awaits_empty rfl
  have swift : Swift config maxTicks (begun rig) 0 :=
    { ticking with
      unfinished := rfl
      within := Nat.zero_le _
      workload := rfl
      accounted := rfl
      notices := nofun
      leads := { leads with }
      missing := rfl }
  refine concludes_of_descends
    (.ok ⟨rfl, EventQueue.awaits_empty, .inl ⟨0, swift, Nat.le_refl _⟩⟩)
    (keepsUp_descends positive some_request maxTicks) ⟨0, rfl⟩ ?_
    (by simp only [List.length_nil]; omega)
  rintro measure sim (⟨clock, swift, -⟩ | ⟨-, ticks, finished⟩)
  · exact .inl ⟨clock, [], swift.toGoing⟩
  · exact .inr ⟨ticks, finished⟩

end Simulation

end GatedMemory
