import GatedMemory.Proofs.Benchmark

set_option autoImplicit false

namespace GatedMemory

def BenchmarkConfig.baselineTicks (config : BenchmarkConfig) : Nat :=
  (config.workload.numRequests - 1) / config.batch * config.turnaround +
    (config.workload.numRequests - 1) % config.batch + config.turnaround

/-- A bound on the time between the creation of a request and its response. A request that memory
turns away is taken one turnaround later at most. -/
def BenchmarkConfig.baselineTrip (config : BenchmarkConfig) : Nat :=
  if config.workload.maxOutstanding ≤ config.memory.maxOutstanding then config.turnaround
  else 2 * config.turnaround

namespace BenchmarkConfig

variable {config : BenchmarkConfig}

theorem baselineTicks_eq (config : BenchmarkConfig) :
    config.baselineTicks = config.answerTick (config.workload.numRequests - 1) := rfl

theorem turnaround_le_baselineTrip : config.turnaround ≤ config.baselineTrip := by
  unfold baselineTrip
  split <;> omega

/-- No number that comes up in such a run is larger: neither what the addresses are computed from,
nor the sum of the round trips, nor any tick. -/
def baselineBound (config : BenchmarkConfig) : Nat :=
  max config.workload.reach (config.workload.numRequests * config.baselineTrip)

/-- One request at a time would take longer. -/
theorem Positive.baselineTicks_le (positive : config.Positive)
    (some_request : 0 < config.workload.numRequests) :
    config.baselineTicks ≤ config.baselineBound := by
  have accept : config.acceptTick (config.workload.numRequests - 1) ≤
      (config.workload.numRequests - 1) * config.turnaround :=
    roundTick_le_mul positive.batch batch_le_turnaround _
  have trips : config.workload.numRequests * config.turnaround ≤
      config.workload.numRequests * config.baselineTrip :=
    Nat.mul_le_mul_left _ turnaround_le_baselineTrip
  obtain ⟨last, number⟩ := Nat.exists_eq_succ_of_ne_zero (Nat.ne_of_gt some_request)
  refine Nat.le_trans ?_ (Nat.le_trans trips (Nat.le_max_right _ _))
  rw [number, Nat.succ_sub_one] at accept
  rw [baselineTicks_eq, answerTick, number, Nat.succ_sub_one, Nat.succ_mul]
  omega

end BenchmarkConfig

namespace Passage

variable {config : BenchmarkConfig} {rig next : Passage} {answering issuing : Nat}

/-- The responses that are due before the tick `answering` have come and the requests that are due
before the tick `issuing` are with memory, and no others. -/
structure OnSchedule (config : BenchmarkConfig) (rig : Passage) (answering issuing : Nat) : Prop
    extends Leads config rig answering issuing where
  creates : rig.requester.peer.Creates config issuing
  lags : rig.memory.Lags config rig.requester.peer.stats.responses answering

namespace OnSchedule

theorem serve (onSchedule : OnSchedule config rig rig.now rig.now) (positive : config.Positive)
    (serves : rig.Serves next) : OnSchedule config next (rig.now + 1) rig.now := by
  have leads := onSchedule.toLeads.serve positive serves
  cases serves with
  | idle => exact { leads with creates := onSchedule.creates, lags := onSchedule.lags.wait }
  | @passed due answer rest _ serving ready =>
    exact { leads with
      creates := onSchedule.creates.receive answer rig.now
      lags := onSchedule.lags.send positive serving ready }

theorem retry (onSchedule : OnSchedule config rig answering issuing) (retries : rig.Retries next) :
    OnSchedule config next answering issuing := by
  have leads := onSchedule.toLeads.retry retries
  cases retries with
  | idle => exact onSchedule
  | passed =>
    exact { leads with
      creates := { onSchedule.creates with }
      lags := onSchedule.lags.congr rfl rfl }

theorem request (onSchedule : OnSchedule config rig (rig.now + 1) rig.now)
    (positive : config.Positive)
    (told : rig.requester.peer.awaitsRetry = true → rig.memory.peer.hasRoom = false)
    (issues : rig.Issues next) : OnSchedule config next (rig.now + 1) (rig.now + 1) := by
  have leads := onSchedule.toLeads.request positive told issues
  cases issues with
  | idle => exact { leads with creates := onSchedule.creates.wait, lags := onSchedule.lags }
  | @accepted packet answer source offers room answered =>
    have creates := onSchedule.creates.offer onSchedule.regular offers
    have count := onSchedule.count
    have number := offers.created_eq onSchedule.regular
    have turn := creates.created
    have window := creates.window
    obtain ⟨-, -, stats, -⟩ := offers.after
    rw [number] at turn window
    rw [stats] at window
    refine { leads with creates := { creates with }, lags := ?_ }
    simp only [offers.accepted_responses]
    exact onSchedule.lags.accept positive room (by omega) (by omega) (Nat.le_refl _) packet answer
  | @refused packet source offers full =>
    have creates := onSchedule.creates.offer onSchedule.regular offers
    refine { leads with creates := { creates with }, lags := ?_ }
    simp only [offers.rejected_responses]
    exact onSchedule.lags.congr rfl rfl

/-- The oldest response was taken into service when its request was due. -/
theorem due_eq (onSchedule : OnSchedule config rig answering issuing) {due : Nat} {answer : Packet}
    {rest : List (Nat × Packet)} (serving : rig.memory.peer.serving = (due, answer) :: rest) :
    due = config.acceptTick rig.requester.peer.stats.responses + config.memory.accessLatency := by
  have head : rig.memory.peer.serving[0]? = some (due, answer) := by rw [serving]; rfl
  exact Nat.le_antisymm (onSchedule.timely 0 _ head) (onSchedule.lags.served 0 _ head)

theorem now_eq (onSchedule : OnSchedule config rig rig.now rig.now) (positive : config.Positive)
    {due : Nat} {answer : Packet} {rest : List (Nat × Packet)}
    (serving : rig.memory.peer.serving = (due, answer) :: rest) (ready : due ≤ rig.now) :
    rig.now = config.answerTick rig.requester.peer.stats.responses := by
  have served := onSchedule.due_eq serving
  have turn := onSchedule.lags.busy (serving ▸ List.cons_ne_nil _ _)
  apply Nat.le_antisymm
  · have count := onSchedule.count
    have issued := onSchedule.regular.issued
    have bounded := onSchedule.regular.bounded
    rw [serving, List.length_cons] at count
    rw [onSchedule.workload] at bounded
    exact onSchedule.answer (by omega)
  · exact positive.answerTick_le (Nat.le_trans (Nat.le_of_eq served.symm) ready) turn

end OnSchedule

/-- Each request that is held or in service could be taken a turnaround after its creation, so no
round trip takes more than two. -/
structure Waits (config : BenchmarkConfig) (rig : Passage) : Prop where
  held : ∀ packet ∈ rig.requester.peer.held,
    config.acceptTick rig.requester.peer.stats.issued ≤ packet.createdAt + config.turnaround
  served : ∀ place entry, rig.memory.peer.serving[place]? = some entry →
    config.acceptTick (rig.requester.peer.stats.responses + place) ≤
      entry.2.createdAt + config.turnaround
  total : rig.requester.peer.stats.totalRoundTrip ≤
    rig.requester.peer.stats.responses * (2 * config.turnaround)

/-- If all earlier requests are with memory, then the next one waits for one answer at most. -/
theorem OnSchedule.acceptTick_le (onSchedule : OnSchedule config rig (rig.now + 1) issuing)
    (positive : config.Positive) :
    config.acceptTick rig.requester.peer.stats.issued ≤ rig.now + config.turnaround := by
  have count := onSchedule.count
  cases number : rig.requester.peer.stats.issued with
  | zero =>
    rw [BenchmarkConfig.acceptTick, Nat.zero_div, Nat.zero_mul, Nat.zero_mod]
    exact Nat.zero_le _
  | succ last =>
    have next := positive.acceptTick_succ_le last
    unfold BenchmarkConfig.answerTick at next
    suffices config.acceptTick last ≤ rig.now by omega
    -- the last request that memory has taken is either still in service, or it was answered
    cases serving : rig.memory.peer.serving.getLast? with
    | none =>
      rw [List.getLast?_eq_none_iff] at serving
      rw [serving, List.length_nil] at count
      have answered := onSchedule.lags.answered last (by omega)
      unfold BenchmarkConfig.answerTick at answered
      omega
    | some entry =>
      have found := serving
      rw [List.getLast?_eq_getElem?] at found
      have served := onSchedule.lags.served _ entry found
      have soon := onSchedule.served entry (List.mem_of_getLast? serving)
      have some_entry := List.length_pos_of_mem (List.mem_of_getLast? serving)
      have place : rig.requester.peer.stats.responses + (rig.memory.peer.serving.length - 1) =
          last := by omega
      rw [place] at served
      omega

namespace Waits

variable (waits : Waits config rig)
include waits

theorem serve (onSchedule : OnSchedule config rig rig.now rig.now) (positive : config.Positive)
    (serves : rig.Serves next) : Waits config next := by
  cases serves with
  | idle => exact waits
  | @passed due answer rest _ serving ready =>
    have answered := onSchedule.now_eq positive serving ready
    have waited : config.acceptTick rig.requester.peer.stats.responses ≤
        answer.createdAt + config.turnaround :=
      waits.served 0 (due, answer) (by rw [serving]; rfl)
    refine { held := waits.held, served := ?_, total := ?_ }
    · intro place entry found
      have waited := waits.served (place + 1) entry (by rw [serving]; exact found)
      rwa [← Nat.add_assoc, Nat.add_right_comm] at waited
    · have total := waits.total
      change rig.requester.peer.stats.totalRoundTrip + (rig.now - answer.createdAt) ≤
        (rig.requester.peer.stats.responses + 1) * (2 * config.turnaround)
      rw [BenchmarkConfig.answerTick] at answered
      rw [Nat.succ_mul]
      omega

theorem retry (retries : rig.Retries next) : Waits config next := by
  cases retries with
  | idle => exact waits
  | passed => exact { waits with }

theorem request (onSchedule : OnSchedule config rig (rig.now + 1) rig.now)
    (positive : config.Positive) (issues : rig.Issues next) : Waits config next := by
  have soon := onSchedule.acceptTick_le positive
  have fresh {packet : Packet} {source : RequestGenerator}
      (offers : rig.requester.peer.Offers rig.now packet source) :
      config.acceptTick rig.requester.peer.stats.issued ≤
        packet.createdAt + config.turnaround := by
    cases held : rig.requester.peer.held with
    | none =>
      obtain ⟨-, -, created, -⟩ := offers.created_of_empty held
      rw [created]
      exact soon
    | some other =>
      rw [offers.eq_of_held held]
      exact waits.held other held
  cases issues with
  | idle => exact waits
  | @accepted packet answer source offers _ answered =>
    obtain ⟨held, -, stats, -⟩ := offers.after
    have count := onSchedule.count
    have early := fresh offers
    refine { held := ?_, served := ?_, total := ?_ }
    · intro other member
      cases held.symm.trans member
    · intro place entry found
      simp only [offers.accepted_responses]
      simp only [RecordedMemory.accepting, Recorded.note] at found
      rcases Nat.lt_or_ge place rig.memory.peer.serving.length with old | new
      · rw [List.getElem?_append_left old] at found
        exact waits.served place entry found
      · rw [List.getElem?_append_right new, List.getElem?_singleton] at found
        split at found
        case isTrue zero =>
          obtain rfl := Option.some.inj found
          have number : rig.requester.peer.stats.responses + place =
              rig.requester.peer.stats.issued := by omega
          rw [number, Packet.eq_of_response? answered]
          exact early
        case isFalse => cases found
    · simp only [RequestGenerator.accepted, stats]
      exact waits.total
  | @refused packet source offers =>
    obtain ⟨-, -, stats, -⟩ := offers.after
    refine { held := ?_, served := ?_, total := ?_ }
    · intro other member
      obtain rfl := Option.some.inj member
      simp only [offers.rejected_issued]
      exact fresh offers
    · simp only [offers.rejected_responses]
      exact waits.served
    · simp only [RequestGenerator.rejected, stats]
      exact waits.total

end Waits

/-- No request was ever turned down, and each response has come back in the same time. -/
structure Unhindered (config : BenchmarkConfig) (rig : Passage) : Prop where
  held : rig.requester.peer.held = none
  free : rig.requester.peer.awaitsRetry = false
  unowed : rig.memory.peer.owesRetry = false
  rejections : rig.memory.peer.rejections = 0
  stats : rig.requester.peer.stats = .uniform config.turnaround rig.requester.peer.stats.issued
    rig.requester.peer.stats.responses
  prompt : ∀ entry ∈ rig.memory.peer.serving,
    entry.1 = entry.2.createdAt + config.memory.accessLatency
  receipts : ∀ receipt ∈ rig.requester.receipts,
    receipt.1 = receipt.2.createdAt + config.turnaround

namespace Unhindered

variable (unhindered : Unhindered config rig)
include unhindered

theorem serve (onSchedule : OnSchedule config rig rig.now rig.now) (positive : config.Positive)
    (serves : rig.Serves next) : Unhindered config next := by
  cases serves with
  | idle => exact unhindered
  | @passed due answer rest _ serving ready =>
    have served := onSchedule.due_eq serving
    have answered := onSchedule.now_eq positive serving ready
    have prompt : due = answer.createdAt + config.memory.accessLatency :=
      unhindered.prompt (due, answer) (serving ▸ List.mem_cons_self)
    have roundTrip : rig.now = answer.createdAt + config.turnaround := by
      rw [answered, BenchmarkConfig.answerTick]
      omega
    refine { unhindered with stats := ?_, prompt := ?_, receipts := ?_ }
    · change rig.requester.peer.stats.addResponse (rig.now - answer.createdAt) =
        .uniform config.turnaround rig.requester.peer.stats.issued
          (rig.requester.peer.stats.responses + 1)
      rw [← TrafficStats.uniform_addResponse, ← unhindered.stats, roundTrip,
        Nat.add_sub_cancel_left]
    · intro entry member
      exact unhindered.prompt entry (serving ▸ List.mem_cons_of_mem _ member)
    · intro receipt member
      rw [RecordedRequester.receipts_receiving] at member
      rcases List.mem_append.1 member with old | new
      · exact unhindered.receipts receipt old
      · rw [List.mem_singleton.1 new]
        exact roundTrip

theorem retry (retries : rig.Retries next) : next = rig := by
  cases retries with
  | idle => rfl
  | passed owed =>
    rw [unhindered.unowed] at owed
    cases owed

theorem request (steady : Steady config rig)
    (fits : config.workload.maxOutstanding ≤ config.memory.maxOutstanding)
    (issues : rig.Issues next) : Unhindered config next := by
  cases issues with
  | idle => exact unhindered
  | @accepted packet answer source offers _ answered =>
    obtain ⟨held, free, stats, -⟩ := offers.after
    obtain ⟨-, -, created, -⟩ := offers.created_of_empty unhindered.held
    refine { unhindered with held := held, free := free, stats := ?_, prompt := ?_ }
    · change source.accepted.stats = .uniform config.turnaround source.accepted.stats.issued
        source.accepted.stats.responses
      rw [RequestGenerator.accepted, stats, unhindered.stats]
      rfl
    · intro entry member
      rcases List.mem_append.1 member with old | new
      · exact unhindered.prompt entry old
      · rw [List.mem_singleton.1 new, Packet.eq_of_response? answered, steady.memory]
        exact congrArg (· + config.memory.accessLatency) created.symm
  | @refused packet source offers full =>
    -- the window is smaller than memory, and it is not full
    have ahead := (RequestGenerator.canCreate_iff.1
      (offers.created_of_empty unhindered.held).1).2
    have busy := mt RecordedMemory.hasRoom_iff.2 (Bool.eq_false_iff.1 full)
    have count := steady.count
    rw [RequestGenerator.inFlight, steady.workload] at ahead
    rw [steady.memory] at busy
    omega

end Unhindered

theorem OnSchedule.timesWithin (onSchedule : OnSchedule config rig answering issuing)
    (waits : Waits config rig)
    (unhindered : config.workload.maxOutstanding ≤ config.memory.maxOutstanding →
      Unhindered config rig)
    (positive : config.Positive) (some_request : 0 < config.workload.numRequests) :
    rig.TimesWithin config.baselineBound := by
  have count := onSchedule.count
  have issued := onSchedule.regular.issued
  have bounded := onSchedule.regular.bounded
  rw [onSchedule.workload] at bounded
  constructor
  · have total : rig.requester.peer.stats.totalRoundTrip ≤
        rig.requester.peer.stats.responses * config.baselineTrip := by
      unfold BenchmarkConfig.baselineTrip
      split
      case isTrue room =>
        rw [(unhindered room).stats]
        exact Nat.le_refl _
      case isFalse => exact waits.total
    have trips := Nat.mul_le_mul_right config.baselineTrip
      (show rig.requester.peer.stats.responses ≤ config.workload.numRequests by omega)
    exact Nat.le_trans total (Nat.le_trans trips (Nat.le_max_right _ _))
  · intro entry member
    obtain ⟨place, found⟩ := List.mem_iff_getElem?.1 member
    obtain ⟨inside, -⟩ := List.getElem?_eq_some_iff.1 found
    have timely := onSchedule.timely place entry found
    have latency : config.memory.accessLatency ≤ config.turnaround := Nat.le_max_left _ _
    have last : config.answerTick (rig.requester.peer.stats.responses + place) ≤
        config.baselineTicks :=
      positive.strictMono_answerTick.monotone (by omega)
    have ticks := positive.baselineTicks_le some_request
    unfold BenchmarkConfig.answerTick at last
    omega

/-- A tick of the clock, after which everything that was due at it has happened. -/
theorem OnSchedule.tick (onSchedule : OnSchedule config rig rig.now rig.now)
    (waits : Waits config rig) (positive : config.Positive) :
    Gives (Exceeds config.workload.reach) (Simulation.turns rig) fun result => result.1 = none ∧
      OnSchedule config result.2 (rig.now + 1) (rig.now + 1) ∧ Waits config result.2 ∧
      result.2.events = rig.events ∧
      (rig.requester.Accounted → result.2.requester.Accounted) ∧
      (config.workload.maxOutstanding ≤ config.memory.maxOutstanding →
        Unhindered config rig → Unhindered config result.2) := by
  have turned := turns_of_regular onSchedule.regular
  rw [onSchedule.workload] at turned
  apply turned.mono
  rintro ⟨_, issued⟩ ⟨rfl, served, retried, serves, retries, issues⟩
  have first := onSchedule.serve positive serves
  have second := first.retry retries
  have told := (first.toSteady.retry retries).2.2.2.2
  have events : retried.events = rig.events := retries.events.trans serves.events
  have now : retried.now = rig.now := congrArg EventQueue.now events
  rw [← now] at second
  have third := second.request positive told issues
  have waiting := ((waits.serve onSchedule positive serves).retry retries).request second positive
    issues
  rw [now] at third
  refine ⟨rfl, third, waiting, issues.events.trans events,
    fun accounted => issues.accounted (retries.accounted (serves.accounted accounted)),
    fun fits unhindered => ?_⟩
  have answered := unhindered.serve onSchedule positive serves
  obtain rfl := answered.retry retries
  exact answered.request second.toSteady fits issues

end Passage

namespace Simulation

structure KeepsSchedule (config : BenchmarkConfig) (limit : Nat)
    (sim : Simulation PassThrough RecordedRequester RecordedMemory Empty) (clock : Nat) : Prop
    extends sim.Ticking clock [] where
  onSchedule : Passage.OnSchedule config sim.rig clock clock
  waits : Passage.Waits config sim.rig
  accounted : sim.rig.requester.Accounted
  unhindered : config.workload.maxOutstanding ≤ config.memory.maxOutstanding →
    Passage.Unhindered config sim.rig
  within : sim.now ≤ limit
  early : clock ≤ config.baselineTicks
  unfinished : sim.finishedAt = none

structure EndsOnSchedule (config : BenchmarkConfig) (limit : Nat)
    (sim : Simulation PassThrough RecordedRequester RecordedMemory Empty) : Prop where
  idle : sim.rig.events.pending = []
  finished : sim.finishedAt = some config.baselineTicks
  within : config.baselineTicks ≤ limit
  issued : sim.rig.requester.peer.stats.issued = config.workload.numRequests
  responses : sim.rig.requester.peer.stats.responses = config.workload.numRequests
  accounted : sim.rig.requester.Accounted
  unhindered : config.workload.maxOutstanding ≤ config.memory.maxOutstanding →
    Passage.Unhindered config sim.rig

variable {config : BenchmarkConfig} {limit clock : Nat}
  {sim : Simulation PassThrough RecordedRequester RecordedMemory Empty}

theorem KeepsSchedule.step {faults : Fault → Prop} (keeps : KeepsSchedule config limit sim clock)
    (positive : config.Positive) (allows : Allows faults config.baselineBound)
    (some_request : 0 < config.workload.numRequests)
    {entry : EventEntry (SimulationEvent Empty)} {rest : List (EventEntry (SimulationEvent Empty))}
    (pending : sim.rig.events.pending = entry :: rest) (within : entry.tick ≤ limit) :
    Gives faults (handle entry.payload
        { sim with rig := { sim.rig with events := sim.rig.events.after entry rest } })
      fun result => result.1 = none ∧
        (EndsOnSchedule config limit result.2 ∨
          KeepsSchedule config limit result.2 (clock + 1)) := by
  have awaits := keeps.awaits
  obtain ⟨rfl, payload⟩ := Prod.mk.inj (List.mem_singleton.1 (awaits.fires pending))
  have fired : (sim.rig.events.after entry rest).Awaits [] :=
    awaits.fire pending (.of_eq (by rw [payload]))
  let before : Passage := { sim.rig with events := sim.rig.events.after entry rest }
  have elapsed : sim.rig.now ≤ before.events.now := awaits.now_le pending
  have passed : Passage.OnSchedule config before before.now before.now :=
    { keeps.onSchedule with served := (keeps.onSchedule.toConforms.wait elapsed).served }
  rw [payload]
  apply handle_of_timesWithin allows
  apply tick_gives
  have addresses : Allows faults config.workload.reach := allows.of_le (Nat.le_max_left _ _)
  apply ((passed.tick { keeps.waits with } positive).weaken addresses).mono
  rintro ⟨_, next⟩ ⟨rfl, onSchedule, waits, events, accounted, unhindered⟩
  simp only at onSchedule waits events accounted unhindered
  refine ⟨rfl, ?_⟩
  have now : next.now = entry.tick := congrArg EventQueue.now events
  have awaited : next.events.Awaits [] := events ▸ fired
  have kept : Passage.OnSchedule config next (entry.tick + 1) (entry.tick + 1) := onSchedule
  have counted := accounted keeps.accounted
  have smooth : config.workload.maxOutstanding ≤ config.memory.maxOutstanding →
      Passage.Unhindered config next :=
    fun fits => unhindered fits { keeps.unhindered fits with }
  let after : Simulation PassThrough RecordedRequester RecordedMemory Empty :=
    ⟨next, sim.clock.occurred, sim.finishedAt⟩
  have afterNow : after.now = entry.tick := now
  have times := kept.timesWithin waits smooth positive some_request
  cases finished : next.requester.peer.isFinished with
  | true =>
    obtain ⟨issued, responses, -, -, -⟩ := kept.drained finished
    have last : entry.tick = config.baselineTicks := by
      have reached := kept.lags.answered (config.workload.numRequests - 1) (by omega)
      rw [← BenchmarkConfig.baselineTicks_eq] at reached
      exact Nat.le_antisymm keeps.early (Nat.le_of_lt_succ reached)
    rw [finishOrContinue_of_finished finished]
    exact .ok ⟨⟨rfl, .inl {
      idle := List.map_eq_nil_iff.1 awaited.agenda.eq_nil
      finished := congrArg some (afterNow.trans last)
      within := last ▸ within
      issued := issued
      responses := responses
      accounted := counted
      unhindered := smooth }⟩, times⟩
  | false =>
    have more : next.requester.peer.stats.responses < config.workload.numRequests := by
      rw [RequestGenerator.isFinished_eq_false_iff, kept.workload] at finished
      exact finished
    have early : entry.tick + 1 ≤ config.baselineTicks :=
      Nat.le_trans (kept.answer more)
        (positive.strictMono_answerTick.monotone (Nat.le_pred_of_lt more))
    have ticking := awaitingTick_ticking after awaited keeps.going
    rw [afterNow] at ticking
    have last : after.now + 1 ≤ config.baselineBound := by
      have bound := positive.baselineTicks_le some_request
      omega
    have free : after.clock.canSchedule = true := RepeatingEvent.canSchedule_occurred keeps.going
    apply ((finishOrContinue_awaits finished free).weaken (allows.of_le last)).mono
    rintro _ rfl
    exact ⟨⟨rfl, .inr { ticking with
      onSchedule := { kept with }
      waits := { waits with }
      accounted := counted
      unhindered := fun fits => { smooth fits with }
      within := Nat.le_trans (Nat.le_of_eq afterNow) within
      early := early
      unfinished := keeps.unfinished }⟩, { times with }⟩

/-- A run goes on by the schedule, or it ended by it. -/
def Scheduled (config : BenchmarkConfig) (limit measure : Nat)
    (sim : Simulation PassThrough RecordedRequester RecordedMemory Empty) : Prop :=
  (∃ clock, KeepsSchedule config limit sim clock ∧ limit + 1 - clock ≤ measure) ∨
    EndsOnSchedule config limit sim

theorem scheduled_lowers {faults : Fault → Prop} (positive : config.Positive)
    (allows : Allows faults config.baselineBound) (some_request : 0 < config.workload.numRequests)
    (limit : Nat) : Lowers faults limit (Scheduled config limit) := by
  rintro measure sim entry rest (⟨clock, keeps, enough⟩ | ended) pending within
  · have due := keeps.awaits.fires pending
    obtain ⟨rfl, -⟩ := Prod.mk.inj (List.mem_singleton.1 due)
    apply (keeps.step positive allows some_request pending within).mono
    rintro result ⟨none, ended | next⟩
    · exact ⟨none, 0, by omega, .inr ended⟩
    · exact ⟨none, _, by omega, .inl ⟨_, next, Nat.le_refl _⟩⟩
  · rw [ended.idle] at pending
    cases pending

/-- If the clock is still to tick when the budget is spent, then the last response is not due
yet. -/
theorem KeepsSchedule.stalled (keeps : KeepsSchedule config limit sim clock)
    (idle : sim.rig.events.takeDue limit = none) :
    limit < config.baselineTicks ∧ sim.summary = .error (.stalled limit) := by
  obtain ⟨beyond, stalled⟩ :=
    stalled_of_idle keeps.awaits keeps.soon keeps.within keeps.unfinished idle
  exact ⟨Nat.lt_of_lt_of_le beyond keeps.early, stalled⟩

/-- A run ends by the schedule, or before the last response is due. -/
structure RunsOnSchedule (config : BenchmarkConfig) (limit : Nat)
    (final : Simulation PassThrough RecordedRequester RecordedMemory Empty) : Prop where
  accounted : final.rig.requester.Accounted
  unhindered : config.workload.maxOutstanding ≤ config.memory.maxOutstanding →
    Passage.Unhindered config final.rig
  ends : limit < config.baselineTicks ∧ final.summary = .error (.stalled limit) ∨
    EndsOnSchedule config limit final

theorem baseline_run (positive : config.Positive)
    (some_request : 0 < config.workload.numRequests) (limit : Nat) :
    Gives (Exceeds config.baselineBound)
      (start {} (Recorded.blank (RequestGenerator.fresh config.workload))
        (Recorded.blank (MemoryModel.idle config.memory)) >>= run limit)
      fun result => result.1 = result.2.summary ∧ RunsOnSchedule config limit result.2 := by
  let rig : Passage := .assemble {} (Recorded.blank (RequestGenerator.fresh config.workload))
    (Recorded.blank (MemoryModel.idle config.memory))
  have leads : Passage.Leads config rig 0 0 := assemble_leads positive
  have ticking : (begun rig).Ticking 0 [] := begun_ticking EventQueue.awaits_empty rfl
  have opened : KeepsSchedule config limit (begun rig) 0 := { ticking with
    onSchedule := { leads with
      creates := ⟨rfl, Nat.zero_le _, Nat.zero_le _⟩
      lags := RecordedMemory.idle_lags config }
    waits := {
      held := nofun
      served := nofun
      total := Nat.zero_le _ }
    accounted := rfl
    unhindered := fun _ => {
      held := rfl
      free := rfl
      unowed := rfl
      rejections := rfl
      stats := by
        change ({} : TrafficStats) = .uniform config.turnaround 0 0
        rw [TrafficStats.uniform, Nat.zero_mul]
        rfl
      prompt := nofun
      receipts := nofun }
    within := Nat.zero_le _
    early := Nat.zero_le _
    unfinished := rfl }
  have enough : limit + 1 < (begun rig).rig.events.horizon limit := by
    rw [begun_horizon EventQueue.awaits_empty rfl, List.length_nil]
    omega
  have ready : Intermediary.start (.assemble {}
      (Recorded.blank (RequestGenerator.fresh config.workload))
      (Recorded.blank (MemoryModel.idle config.memory))) = .ok rig := rfl
  rw [start_eq_begun ready rfl, ok_bind]
  have lowers : Lowers (Exceeds config.baselineBound) limit (Scheduled config limit) :=
    scheduled_lowers positive .exceeds some_request limit
  apply lowers.run ?_ (.inl ⟨0, opened, Nat.le_refl _⟩) enough
  rintro measure sim (⟨clock, keeps, -⟩ | ended) idle
  · exact ⟨keeps.accounted, keeps.unhindered, .inl (keeps.stalled idle)⟩
  · exact ⟨ended.accounted, ended.unhindered, .inr ended⟩

/-- A requester that sends four requests ahead, to a memory that serves two at once. -/
def twoPlaces : BenchmarkConfig where
  memory := { accessLatency := 5, maxOutstanding := 2 }
  workload := { numRequests := 7, maxOutstanding := 4 }

end Simulation

end GatedMemory
