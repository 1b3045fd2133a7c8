import GatedMemory.Proofs.Clocked

set_option autoImplicit false

namespace GatedMemory

/-- What a run with a budget of `maxTicks` gives, if the last of so many responses is noticed
`delay` ticks after it came. -/
inductive Reports (requests maxTicks delay : Nat) (receipts : List (Nat × Packet)) :
    Except RunError RunSummary → Prop where
  | completed {tick : Nat} {packet : Packet} {summary : RunSummary}
    (last : receipts[requests - 1]? = some (tick, packet)) (within : tick + delay ≤ maxTicks)
    (ticks : summary.ticks = tick + delay) : Reports requests maxTicks delay receipts (.ok summary)
  | late {tick : Nat} {packet : Packet} (last : receipts[requests - 1]? = some (tick, packet))
    (beyond : maxTicks < tick + delay) :
    Reports requests maxTicks delay receipts (.error (.stalled maxTicks))
  | unanswered (missing : receipts[requests - 1]? = none) :
    Reports requests maxTicks delay receipts (.error (.stalled maxTicks))

namespace RecordedRequester

variable {requester : RecordedRequester} {requests tick : Nat} {packet : Packet}

def Accounted (requester : RecordedRequester) : Prop :=
  requester.peer.stats.responses = requester.receipts.length

theorem receipts_receiving :
    (requester.receiving packet tick).receipts = requester.receipts ++ [(tick, packet)] :=
  Recorded.receipts_note requester _ _

theorem receipts_resuming : requester.resuming.receipts = requester.receipts :=
  (Recorded.receipts_note requester _ _).trans (List.append_nil _)

/-- A response that comes when one is missing is the last. -/
theorem last_receipt (missing : requester.receipts[requests - 1]? = none) :
    ∀ receipt ∈ (requester.receiving packet tick).receipts[requests - 1]?, receipt.1 = tick := by
  intro receipt found
  rw [receipts_receiving, List.getElem?_append_right (List.getElem?_eq_none_iff.1 missing),
    List.getElem?_singleton] at found
  split at found
  · cases found
    rfl
  · cases found

namespace Accounted

variable (accounted : requester.Accounted)
include accounted

theorem length_taken : requester.taken.length = requester.peer.stats.responses :=
  requester.length_taken.trans accounted.symm

theorem receive (packet : Packet) (tick : Nat) : (requester.receiving packet tick).Accounted := by
  rw [Accounted, receipts_receiving, List.length_append, List.length_singleton]
  exact congrArg Nat.succ accounted

theorem resume : requester.resuming.Accounted := by
  rw [Accounted, receipts_resuming]
  exact accounted

theorem issue {source : RequestGenerator}
    (offers : requester.peer.Offers tick packet source) :
    Accounted { requester with peer := source.accepted } :=
  offers.accepted_responses.trans accounted

theorem reject {source : RequestGenerator}
    (offers : requester.peer.Offers tick packet source) :
    Accounted { requester with peer := source.rejected packet } :=
  offers.rejected_responses.trans accounted

theorem finished_iff (some_request : 0 < requester.peer.workload.numRequests) :
    requester.peer.isFinished = true ↔
      (requester.receipts[requester.peer.workload.numRequests - 1]?).isSome = true := by
  rw [RequestGenerator.isFinished_iff, accounted, isSome_getElem?]
  omega

end Accounted

end RecordedRequester

namespace Simulation

variable {κ ε : Type} {config : BenchmarkConfig} {delays : Nat → Prop} {limit clock ticks : Nat}
  {sim : Simulation κ RecordedRequester RecordedMemory ε}
  {others : List (Nat × SimulationEvent ε)}

/-- Once the last response has come, the clock ticks after one of these delays. -/
def Notices (config : BenchmarkConfig) (delays : Nat → Prop) (requester : RecordedRequester)
    (clock : Nat) : Prop :=
  ∀ receipt ∈ requester.receipts[config.workload.numRequests - 1]?,
    ∃ delay, delays delay ∧ clock = receipt.1 + delay

theorem Notices.receive {requester : RecordedRequester} {tick : Nat}
    (notices : Notices config delays requester clock)
    (noticed : ∃ delay, delays delay ∧ clock = tick + delay) (packet : Packet) :
    Notices config delays (requester.receiving packet tick) clock := by
  intro receipt found
  cases last : requester.receipts[config.workload.numRequests - 1]? with
  | none =>
    rw [RecordedRequester.last_receipt last receipt found]
    exact noticed
  | some old =>
    obtain ⟨inside, -⟩ := List.getElem?_eq_some_iff.1 last
    rw [RecordedRequester.receipts_receiving, List.getElem?_append_left inside] at found
    exact notices receipt found

theorem Notices.resume {requester : RecordedRequester}
    (notices : Notices config delays requester clock) :
    Notices config delays requester.resuming clock := by
  unfold Notices
  rw [RecordedRequester.receipts_resuming]
  exact notices

structure Going (config : BenchmarkConfig) (delays : Nat → Prop) (limit : Nat)
    (sim : Simulation κ RecordedRequester RecordedMemory ε) (clock : Nat)
    (others : List (Nat × SimulationEvent ε)) : Prop extends sim.Ticking clock others where
  unfinished : sim.finishedAt = none
  within : sim.now ≤ limit
  workload : sim.rig.requester.peer.workload = config.workload
  accounted : sim.rig.requester.Accounted
  notices : Notices config delays sim.rig.requester clock

/-- A run that is over was over soon after the last response. -/
structure Finished (config : BenchmarkConfig) (delays : Nat → Prop) (limit : Nat)
    (sim : Simulation κ RecordedRequester RecordedMemory ε) (ticks : Nat) : Prop where
  finished : sim.finishedAt = some ticks
  within : ticks ≤ limit
  last : ∃ receipt ∈ sim.rig.requester.receipts[config.workload.numRequests - 1]?,
    ∃ delay, delays delay ∧ ticks = receipt.1 + delay

variable [Intermediary κ ε]

theorem Finished.reports (finished : sim.Finished config delays limit ticks) :
    (∃ delay, delays delay ∧
      Reports config.workload.numRequests limit delay sim.rig.requester.receipts sim.summary) ∧
    ∀ summary, sim.summary = .ok summary → summary.ticks = ticks := by
  obtain ⟨⟨tick, packet⟩, last, delay, possible, same⟩ := finished.last
  simp only [summary, finished.finished]
  refine ⟨⟨delay, possible, .completed last ?_ same⟩, ?_⟩
  · exact same ▸ finished.within
  · rintro _ ⟨⟩
    rfl

/-- A run that goes on when its budget is spent has stalled. -/
theorem Going.reports (going : sim.Going config delays limit clock others)
    (possible : ∃ delay, delays delay) (idle : sim.rig.events.takeDue limit = none) :
    (∃ delay, delays delay ∧
      Reports config.workload.numRequests limit delay sim.rig.requester.receipts sim.summary) ∧
    sim.summary = .error (.stalled limit) := by
  obtain ⟨beyond, stalled⟩ :=
    stalled_of_idle going.awaits going.soon going.within going.unfinished idle
  refine ⟨?_, stalled⟩
  rw [stalled]
  cases last : sim.rig.requester.receipts[config.workload.numRequests - 1]? with
  | none =>
    obtain ⟨delay, possible⟩ := possible
    exact ⟨delay, possible, .unanswered last⟩
  | some receipt =>
    obtain ⟨delay, possible, same⟩ := going.notices receipt last
    exact ⟨delay, possible, .late last (same ▸ beyond)⟩

/-- A tick after which everything is answered ends the run; any other is followed by the next. -/
theorem Going.conclude {after : Simulation κ RecordedRequester RecordedMemory ε}
    (some_request : 0 < config.workload.numRequests)
    (awaits : after.rig.events.Awaits others) (free : after.clock.canSchedule = true)
    (going : after.clock.stopped = false) (unfinished : after.finishedAt = none)
    (within : after.now ≤ limit) (workload : after.rig.requester.peer.workload = config.workload)
    (accounted : after.rig.requester.Accounted)
    (notices : Notices config delays after.rig.requester after.now) :
    Gives Overflow after.finishOrContinue fun next =>
      after.rig.requester.peer.isFinished = true ∧
        next = { after with
          rig := Intermediary.windDown after.rig, finishedAt := some after.now } ∧
        ((Intermediary.windDown after.rig).requester = after.rig.requester →
          next.Finished config delays limit after.now) ∨
      after.rig.requester.receipts[config.workload.numRequests - 1]? = none ∧
        next = after.awaitingTick ∧ next.Going config delays limit (after.now + 1) others := by
  have finished_iff := accounted.finished_iff (workload ▸ some_request)
  rw [workload] at finished_iff
  cases finished : after.rig.requester.peer.isFinished with
  | true =>
    rw [finishOrContinue_of_finished finished]
    refine .ok (.inl ⟨rfl, rfl, fun same => ?_⟩)
    obtain ⟨receipt, last⟩ := Option.isSome_iff_exists.1 (finished_iff.1 finished)
    exact {
      finished := rfl
      within := within
      last := ⟨receipt, same.symm ▸ last, notices receipt last⟩ }
  | false =>
    have missing : after.rig.requester.receipts[config.workload.numRequests - 1]? = none := by
      rw [← Option.isNone_iff_eq_none, ← Option.isSome_eq_false_iff, Bool.eq_false_iff, ne_eq,
        ← finished_iff, finished]
      exact Bool.false_ne_true
    apply (finishOrContinue_of_free finished free).mono
    rintro _ rfl
    refine .inr ⟨missing, rfl, {
      awaitingTick_ticking after awaits going with
      unfinished := unfinished
      within := within
      workload := workload
      accounted := accounted
      notices := ?_ }⟩
    intro receipt last
    have none := missing.symm.trans last
    cases none

/-- A run of the component between fresh peers fails with such an error, or it leaves no event
within its budget, its outcome tells when the last response came, and the ticks that it reports have
a property. -/
def Concludes (component : κ) (config : BenchmarkConfig) (maxTicks : Nat)
    (fails : RunError → Prop) (delays bound : Nat → Prop) : Prop :=
  Gives Overflow (start component (Recorded.blank (RequestGenerator.fresh config.workload))
      (Recorded.blank (MemoryModel.idle config.memory)) >>= run maxTicks) fun result =>
    (∃ error, result.1 = .error error ∧ fails error) ∨
    result.2.rig.events.takeDue maxTicks = none ∧
      (∃ delay, delays delay ∧ Reports config.workload.numRequests maxTicks delay
        result.2.rig.requester.receipts result.1) ∧
      ∀ summary, result.1 = .ok summary → bound summary.ticks

/-- A run of which each event lowers a measure concludes, if in between it goes on or is over. -/
theorem concludes_of_descends {component : κ} {maxTicks measure : Nat} {fails : RunError → Prop}
    {bound : Nat → Prop} {holds : Nat → Simulation κ RecordedRequester RecordedMemory ε → Prop}
    (ready : Gives Overflow (Intermediary.start (.assemble component
      (Recorded.blank (RequestGenerator.fresh config.workload))
      (Recorded.blank (MemoryModel.idle config.memory)))) fun rig =>
        rig.now = 0 ∧ rig.events.Awaits others ∧ holds measure (begun rig))
    (descends : Descends Overflow maxTicks fails holds) (possible : ∃ delay, delays delay)
    (between : ∀ measure sim, holds measure sim →
      (∃ clock others, sim.Going config delays maxTicks clock others) ∨
        ∃ ticks, sim.Finished config delays maxTicks ticks ∧ bound ticks)
    (enough : measure ≤ 3 * (maxTicks + 1) * (others.length + 1)) :
    Concludes component config maxTicks fails delays bound := by
  have begins : Gives Overflow (start component
      (Recorded.blank (RequestGenerator.fresh config.workload))
      (Recorded.blank (MemoryModel.idle config.memory))) fun sim =>
        measure < sim.rig.events.horizon maxTicks ∧ holds measure sim := by
    apply start_gives
    apply ready.mono
    rintro rig ⟨zero, awaits, now⟩
    refine ⟨zero, ?_, now⟩
    rw [begun_horizon awaits zero]
    exact Nat.lt_succ_of_le enough
  apply begins.bind
  rintro _ ⟨enough, now⟩
  apply (descends.run now enough).mono
  rintro ⟨outcome, final⟩ (failed | ⟨same, ⟨left, kept⟩, idle⟩)
  · exact .inl failed
  · simp only at same idle kept
    subst same
    rcases between left final kept with ⟨clock, others, going⟩ | ⟨ticks, finished, bounded⟩
    · obtain ⟨told, stalled⟩ := going.reports possible idle
      refine .inr ⟨idle, told, fun summary completed => ?_⟩
      rw [show final.summary = _ from stalled] at completed
      cases completed
    · obtain ⟨told, ticks⟩ := finished.reports
      exact .inr ⟨idle, told, fun summary completed => ticks summary completed ▸ bounded⟩

/-- A run of the component between fresh peers, with this budget, takes so many ticks. -/
def Takes (component : κ) (config : BenchmarkConfig) (maxTicks ticks : Nat) : Prop :=
  ∃ (summary : RunSummary) (sim : Simulation κ RequestGenerator MemoryModel ε),
    start component (RequestGenerator.fresh config.workload) (MemoryModel.idle config.memory) >>=
      run maxTicks = .ok (.ok summary, sim) ∧ summary.ticks = ticks

theorem Completes.exists_takes {component : κ} {idle : κ → Prop} {maxTicks : Nat}
    (completes : Completes component config idle maxTicks)
    (ok : (start component (RequestGenerator.fresh config.workload)
      (MemoryModel.idle config.memory) >>= run maxTicks).isOk = true) :
    ∃ ticks, Takes component config maxTicks ticks := by
  obtain ⟨⟨_, final⟩, ran, summary, rfl, -⟩ := Gives.yields_of_isOk completes ok
  exact ⟨_, summary, final, ran, rfl⟩

/-- A run of the component between fresh peers fails with such an error, or nothing is left to do
within its budget and its outcome tells when the last response came. The outcome is that of the run
between peers that keep no record. -/
def Tells (component : κ) (config : BenchmarkConfig) (maxTicks : Nat) (fails : RunError → Prop)
    (delays : Nat → Prop) : Prop :=
  Gives Overflow (start component (Recorded.blank (RequestGenerator.fresh config.workload))
      (Recorded.blank (MemoryModel.idle config.memory)) >>= run maxTicks) fun result =>
    start component (RequestGenerator.fresh config.workload) (MemoryModel.idle config.memory) >>=
      run maxTicks = .ok (result.1, result.2.map Recorded.peer Recorded.peer) ∧
    ((∃ error, result.1 = .error error ∧ fails error) ∨
      result.2.rig.events.takeDue maxTicks = none ∧ ∃ delay, delays delay ∧
        Reports config.workload.numRequests maxTicks delay
          result.2.rig.requester.receipts result.1)

namespace Concludes

variable [Parametric κ] {component : κ} {maxTicks : Nat} {fails : RunError → Prop}
  {bound : Nat → Prop} (concludes : Concludes component config maxTicks fails delays bound)
include concludes

theorem tells : Tells component config maxTicks fails delays := by
  have plain := run_eq_recorded component config maxTicks
  apply concludes.and_eq.mono
  rintro ⟨outcome, sim⟩ ⟨ran, ended⟩
  rw [ran] at plain
  refine ⟨plain, ?_⟩
  rcases ended with failed | ⟨idle, told, -⟩
  · exact .inl failed
  · exact .inr ⟨idle, told⟩

theorem bound_of_takes (takes : Takes component config maxTicks ticks) : bound ticks := by
  obtain ⟨summary, final, plain, rfl⟩ := takes
  rw [run_eq_recorded] at plain
  obtain ⟨⟨outcome, sim⟩, ran, same⟩ := Yields.of_map plain
  obtain ⟨rfl, -⟩ := Prod.mk.inj same
  have ended := concludes
  rw [Concludes, ran] at ended
  rcases ended with ⟨error, failed, -⟩ | ⟨-, -, bounded⟩
  · cases failed
  · exact bounded summary rfl

end Concludes

end Simulation

end GatedMemory
