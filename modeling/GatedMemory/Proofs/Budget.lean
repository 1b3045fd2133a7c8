import GatedMemory.Proofs.Bounded

set_option autoImplicit false

namespace GatedMemory

namespace Simulation

variable {κ ε ρ μ : Type} [Intermediary κ ε] [TrafficSource ρ] [ResponseSource μ]

/-- The run is over, and all events to come are quiet ones of the component. -/
structure Quieted (quiet : ε → Prop) (sim : Simulation κ ρ μ ε) : Prop where
  finished : sim.finishedAt.isSome = true
  events : ∀ entry ∈ sim.rig.events.pending, ∃ event, entry.payload = .component event ∧ quiet event

/-- Besides, no number that the peers keep is too large. -/
structure Resting (quiet : ε → Prop) (sim : Simulation κ ρ μ ε) : Prop extends
    Quieted quiet sim where
  fits : sim.oversize? = none

/-- What a rig keeps as long as nothing goes wrong. It follows that only quiet events are left once
the requester waits for nothing; they change the component and nothing else. -/
structure Tidy (clean : Rig κ ρ μ (SimulationEvent ε) → Prop) (quiet : ε → Prop) : Prop where
  serve {rig : Rig κ ρ μ (SimulationEvent ε)} (now : clean rig) :
    Gives (fun _ => True) (serveResponse rig) clean
  retry {rig : Rig κ ρ μ (SimulationEvent ε)} (now : clean rig) : clean (passRetry rig)
  issue {rig : Rig κ ρ μ (SimulationEvent ε)} (now : clean rig) :
    Gives (fun _ => True) (issueRequest rig) fun result => result.1 = none → clean result.2
  wait {rig : Rig κ ρ μ (SimulationEvent ε)} (now : clean rig) (tick : Nat) (priority : Int) :
    clean { rig with events := rig.events.scheduled tick priority .clock }
  tick {rig : Rig κ ρ μ (SimulationEvent ε)} {entry : EventEntry (SimulationEvent ε)}
    {rest : List (EventEntry (SimulationEvent ε))} (now : clean rig)
    (pending : rig.events.pending = entry :: rest) (clock : entry.payload = .clock) :
    clean { rig with events := rig.events.after entry rest }
  handle {rig : Rig κ ρ μ (SimulationEvent ε)} {entry : EventEntry (SimulationEvent ε)}
    {rest : List (EventEntry (SimulationEvent ε))} {event : ε} (now : clean rig)
    (distinct : rig.events.Distinct) (pending : rig.events.pending = entry :: rest)
    (inner : entry.payload = .component event) :
    Gives (fun _ => True)
      (Intermediary.handle event { rig with events := rig.events.after entry rest })
      fun result => result.1 = none → clean result.2
  windDown {rig : Rig κ ρ μ (SimulationEvent ε)} {entry : EventEntry (SimulationEvent ε)}
    {event : ε} (now : clean rig) (finished : TrafficSource.isFinished rig.requester = true)
    (member : entry ∈ (Intermediary.windDown rig).events.pending)
    (inner : entry.payload = .component event) : quiet event
  quiet (rig : Rig κ ρ μ (SimulationEvent ε)) {event : ε} (calm : quiet event) :
    ∃ component, Intermediary.handle event rig = .ok (none, { rig with component })

/-- Quiet events meet no fault, and do not change what a run tells. -/
theorem Tidy.preserves {clean : Rig κ ρ μ (SimulationEvent ε) → Prop} {quiet : ε → Prop}
    (tidy : Tidy clean quiet) (summary : Except RunError RunSummary) :
    Preserves (fun _ => False) fun sim : Simulation κ ρ μ ε =>
      sim.Resting quiet ∧ sim.summary = summary := by
  rintro sim entry rest ⟨resting, told⟩ pending
  obtain ⟨event, payload, calm⟩ := resting.events entry (pending ▸ List.mem_cons_self)
  obtain ⟨component, handled⟩ :=
    tidy.quiet { sim.rig with events := sim.rig.events.after entry rest } calm
  obtain ⟨ticks, finished⟩ := Option.isSome_iff_exists.1 resting.finished
  rw [payload]
  apply handle_of_fits
  simp only [react, handled, ok_bind]
  have fits := resting.fits
  refine .ok ⟨⟨rfl, ⟨⟨resting.finished, fun other member => ?_⟩, fits⟩, ?_⟩, fits⟩
  · exact resting.events other (pending ▸ List.mem_cons_of_mem _ member)
  · rw [← told]
    simp only [Simulation.summary, finished]

section

variable [Parametric κ] {able : κ → Prop} {recurs : ε → Bool} {faults : Fault → Prop}
  {holds : ρ → Prop} {limit budget now : Nat} {clean : Rig κ ρ μ (SimulationEvent ε) → Prop}
  {quiet : ε → Prop} {sim : Simulation κ ρ μ ε}

structure Underway (able : κ → Prop) (holds : ρ → Prop)
    (clean : Rig κ ρ μ (SimulationEvent ε) → Prop) (sim : Simulation κ ρ μ ε) : Prop where
  sane : Sane able holds sim.clock sim.rig
  clean : clean sim.rig
  unfinished : sim.finishedAt = none

omit [Parametric κ] in
theorem Tidy.turns {rig : Rig κ ρ μ (SimulationEvent ε)} (tidy : Tidy clean quiet)
    (now : clean rig) :
    Gives (fun _ => True) (turns rig) fun result => result.1 = none → clean result.2 := by
  apply (tidy.serve now).bind
  exact fun served kept => tidy.issue (tidy.retry kept)

variable (frugal : Frugal (κ := κ) able recurs)

omit [Parametric κ] in
include frugal in
/-- At the end of a tick the run goes on, or it is over and at rest. -/
theorem Tidy.finishOrContinue_gives (tidy : Tidy clean quiet)
    (sane : Sane able holds sim.clock sim.rig) (idle : sim.clock.pending = none)
    (kept : clean sim.rig) : Gives Overflow sim.finishOrContinue fun final =>
      clean final.rig ∧ final.finishedAt = sim.finishedAt ∨ Quieted quiet final := by
  apply sim.finishOrContinue_ends.mono
  intro final ends
  cases ends with
  | waits => exact .inl ⟨tidy.wait kept _ _, rfl⟩
  | busy => exact .inl ⟨kept, rfl⟩
  | finished finished =>
    refine .inr ⟨rfl, fun entry member => ?_⟩
    have present := (frugal.windDown _ sane.able).2.mem member
    cases payload : entry.payload with
    | clock => exact absurd payload (sane.owns.absent idle entry present)
    | component event => exact ⟨event, rfl, tidy.windDown kept finished member payload⟩

variable (closed : TrafficSource.Closed faults holds) (tidy : Tidy clean quiet)
include frugal closed tidy

theorem Tidy.tick_rests
    (state : Spending able recurs holds sim.clock.occurred limit budget now sim.rig)
    (kept : clean sim.rig) :
    Gives faults sim.tick fun result => result.1 = none →
      clean result.2.rig ∧ result.2.finishedAt = sim.finishedAt ∨ Quieted quiet result.2 := by
  rw [tick_eq]
  apply ((turns_spending frugal closed state).and (tidy.turns kept)).bind
  rintro ⟨_ | error, issued⟩ ⟨⟨done, -⟩, tidied⟩
  case some => exact nofun
  case none =>
    let turned : Simulation κ ρ μ ε := { sim with rig := issued, clock := sim.clock.occurred }
    have sane : Sane able holds turned.clock turned.rig := done.toSane
    have finish := tidy.finishOrContinue_gives frugal sane rfl (tidied rfl)
    exact (finish.weaken closed.overflows).map fun _ ends _ => ends

/-- Each event keeps what a run keeps, or the run is over and at rest. -/
theorem Tidy.fireDue_gives {outcome : Except Fault (Option RunError × Simulation κ ρ μ ε)}
    (underway : Underway able holds clean sim) (due : sim.fireDue limit = some outcome) :
    Gives faults outcome fun result => result.1 = none →
      Underway able holds clean result.2 ∨ Resting quiet result.2 := by
  obtain ⟨fired, taken, rfl⟩ := Option.map_eq_some_iff.1 due
  obtain ⟨next, within⟩ := EventQueue.takeDue_eq_some_iff.1 taken
  obtain ⟨entry, rest, pending, rfl⟩ := EventQueue.takeNext_eq_some_iff.1 next
  have sane := underway.sane
  have handled := handle_spending frugal closed sane pending within
  cases payload : entry.payload with
  | clock =>
    rw [payload] at handled
    have none_left := sane.owns.absent_of_fired sane.distinct pending payload
    have state := sane.fire recurs limit pending
    let fired : Simulation κ ρ μ ε :=
      { sim with rig := { sim.rig with events := sim.rig.events.after entry rest } }
    have clear : fired.clock.occurred.Owns fired.rig.events .clock := .of_absent none_left
    have spending : Spending able recurs holds fired.clock.occurred limit _ entry.tick fired.rig :=
      { state with owns := clear }
    have ticked := tidy.tick_rests frugal closed spending (tidy.tick underway.clean pending payload)
    have clocked : Gives faults (Simulation.handle .clock fired) _ :=
      handle_gives_of_le closed.overflows ticked
    apply (handled.and clocked).and_eq.mono
    rintro result ⟨came, ⟨sane, -⟩, kept⟩ ok
    rcases kept ok with ⟨clean, unfinished⟩ | quieted
    · exact .inl ⟨sane, clean, unfinished.trans underway.unfinished⟩
    · exact .inr { quieted with fits := (handle_eq_ok_iff.1 came).2 }
  | component event =>
    rw [payload] at handled
    have tidied : Gives (fun _ => True) (Simulation.handle (.component event)
        { sim with rig := { sim.rig with events := sim.rig.events.after entry rest } })
        fun result => result.1 = none →
          clean result.2.rig ∧ result.2.finishedAt = sim.finishedAt := by
      apply handle_gives_of_le fun _ _ => trivial
      apply (tidy.handle underway.clean sane.distinct pending payload).bind
      exact fun result kept ok => ⟨kept ok, rfl⟩
    apply (handled.and tidied).mono
    rintro result ⟨⟨sane, -⟩, kept⟩ ok
    obtain ⟨clean, unfinished⟩ := kept ok
    exact .inl ⟨sane, clean, unfinished.trans underway.unfinished⟩

/-- A run that ends well comes to rest. -/
theorem Tidy.run_rests (underway : Underway able holds clean sim) {summary : RunSummary}
    {final : Simulation κ ρ μ ε} (ran : sim.run limit = .ok (.ok summary, final)) :
    Resting quiet final ∧ final.summary = .ok summary := by
  have keeps : ∀ (sim : Simulation κ ρ μ ε) outcome,
      Underway able holds clean sim ∨ Resting quiet sim → sim.fireDue limit = some outcome →
      Gives faults outcome fun result => result.1 = none →
        Underway able holds clean result.2 ∨ Resting quiet result.2 := by
    rintro sim outcome (underway | resting) due
    · exact tidy.fireDue_gives frugal closed underway due
    · obtain ⟨fired, taken, rfl⟩ := Option.map_eq_some_iff.1 due
      obtain ⟨next, -⟩ := EventQueue.takeDue_eq_some_iff.1 taken
      obtain ⟨entry, rest, pending, rfl⟩ := EventQueue.takeNext_eq_some_iff.1 next
      have calm := tidy.preserves sim.summary sim entry rest ⟨resting, rfl⟩ pending
      exact (calm.mono fun result kept _ => .inr kept.2.1).weaken nofun
  have gives := advanceWithin_gives keeps (sim.rig.events.horizon limit) (.inl underway)
  cases advanced : sim.advanceWithin limit (sim.rig.events.horizon limit) with
  | error fault =>
    rw [run, advance, advanced] at ran
    cases ran
  | ok result =>
    obtain ⟨_ | error, reached⟩ := result
    · simp only [run, advance, advanced, ok_bind] at ran
      injection ran with same
      obtain ⟨told, rfl⟩ := Prod.mk.inj same
      rw [advanced] at gives
      rcases gives rfl with underway | resting
      · have unfinished : reached.finishedAt = none := underway.unfinished
        rw [Simulation.summary, unfinished] at told
        cases told
      · exact ⟨resting, told⟩
    · rw [run, advance, advanced] at ran
      cases ran

end

/-- Further runs, each with its own budget. -/
def rerun : List Nat → Simulation κ ρ μ ε →
    Except Fault (List (Except RunError RunSummary) × Simulation κ ρ μ ε)
  | [], sim => .ok ([], sim)
  | budget :: budgets, sim => do
    let (outcome, sim) ← sim.run budget
    let (outcomes, sim) ← rerun budgets sim
    return (outcome :: outcomes, sim)

theorem Tidy.rerun_of_resting {clean : Rig κ ρ μ (SimulationEvent ε) → Prop} {quiet : ε → Prop}
    (tidy : Tidy clean quiet) {summary : RunSummary} (budgets : List Nat)
    {sim : Simulation κ ρ μ ε} (resting : sim.Resting quiet) (told : sim.summary = .ok summary) :
    (sim.rerun budgets).map Prod.fst = .ok (budgets.map fun _ => .ok summary) := by
  induction budgets generalizing sim with
  | nil => rfl
  | cons budget budgets ih =>
    obtain ⟨⟨outcome, next⟩, ran, same, resting, told⟩ :=
      ((tidy.preserves (.ok summary)).run budget ⟨resting, told⟩).yields fun _ => id
    obtain ⟨⟨outcomes, final⟩, reran, others⟩ := Yields.of_map (ih resting told)
    obtain rfl : outcome = .ok summary := same.trans told
    simp only [rerun, ran, reran, ok_bind]
    exact congrArg (fun rest => Except.ok (.ok summary :: rest)) others

/-- A run between fresh peers can be made in parts: unless it ended with an error, it goes on with a
larger budget as if it had had that one at once. Once it has told how it went, it tells the same
with every larger budget, and whenever it is run again. -/
def Splits {κ ε : Type} [Intermediary κ ε] (component : κ) (config : BenchmarkConfig) : Prop :=
  Gives Overflow (start component (RequestGenerator.fresh config.workload)
    (MemoryModel.idle config.memory)) fun sim =>
    ∀ first outcome middle, sim.run first = .ok (outcome, middle) →
      (∀ error, outcome = .error error → error.IsStall) →
      (∀ second, first ≤ second → middle.run second = sim.run second) ∧
      ∀ summary, outcome = .ok summary →
        (∀ second, first ≤ second →
          (sim.run second).map Prod.fst = .ok (.ok summary)) ∧
        ∀ budgets, (middle.rerun budgets).map Prod.fst = .ok (budgets.map fun _ => .ok summary)

theorem splits_of_tidy {κ ε : Type} [Intermediary κ ε] [Parametric κ] {able : κ → Prop}
    {recurs : ε → Bool} (frugal : Frugal (κ := κ) able recurs) {component : κ}
    (can : able component) {config : BenchmarkConfig}
    {clean : Rig κ RequestGenerator MemoryModel (SimulationEvent ε) → Prop} {quiet : ε → Prop}
    (tidy : Tidy clean quiet) (opens : Gives (fun _ => True)
      (Intermediary.start (.assemble component (.fresh config.workload) (.idle config.memory)))
      clean) : Splits component config := by
  -- the faults of a run that is known to have given something do not matter
  have closed : TrafficSource.Closed (fun _ => True) (RequestGenerator.Follows config.workload) :=
    RequestGenerator.closed (fun _ _ => trivial) fun _ _ => trivial
  have sane := start_sane frugal can (RequestGenerator.fresh_follows config.workload)
    (MemoryModel.idle config.memory)
  have begins := frugal.start (.assemble component
    (RequestGenerator.fresh config.workload) (MemoryModel.idle config.memory)) can
  have opened : Gives Overflow (start component (RequestGenerator.fresh config.workload)
      (MemoryModel.idle config.memory)) fun sim => clean sim.rig ∧ sim.finishedAt = none := by
    apply start_gives
    apply (begins.and opens).mono
    rintro rig ⟨⟨-, adds⟩, kept⟩
    exact ⟨adds.now_eq, tidy.wait kept _ _, rfl⟩
  apply (sane.and opened).mono
  rintro sim ⟨sane, kept, unfinished⟩ first outcome middle ran open_end
  have underway : Underway able (RequestGenerator.Follows config.workload) clean sim :=
    ⟨sane, kept, unfinished⟩
  have resumes {second : Nat} (order : first ≤ second) : middle.run second = sim.run second :=
    run_resumes frugal closed sane order ran open_end
  refine ⟨fun second => resumes, ?_⟩
  rintro summary rfl
  obtain ⟨resting, told⟩ := tidy.run_rests frugal closed underway ran
  refine ⟨fun second order => ?_, fun budgets => tidy.rerun_of_resting budgets resting told⟩
  obtain ⟨⟨outcome, final⟩, again, same, -, told⟩ :=
    ((tidy.preserves (.ok summary)).run second ⟨resting, told⟩).yields fun _ => id
  rw [← resumes order, again]
  exact congrArg Except.ok (same.trans told)

end Simulation

theorem FixedLatencyLink.eq_fresh_of_build {config : LinkConfig} {link : FixedLatencyLink}
    (built : build config = .ok link) : link = fresh config ∧ link.Ticks := by
  cases valid : config.validate with
  | error => simp only [build, valid, reduceCtorEq] at built
  | ok =>
    obtain rfl := Except.ok.inj ((build_eq_ok valid).symm.trans built)
    exact ⟨rfl, LinkConfig.validate_eq_ok_iff.1 valid⟩

theorem SecureModule.eq_fresh_of_build {config : SecureModuleConfig} {module : SecureModule}
    (built : build config = .ok module) : module = fresh config ∧ module.Ticks := by
  cases valid : config.validate with
  | error => simp only [build, valid, reduceCtorEq] at built
  | ok =>
    obtain rfl := Except.ok.inj ((build_eq_ok valid).symm.trans built)
    exact ⟨rfl, (SecureModuleConfig.validate_eq_ok_iff.1 valid).2.2⟩

theorem PassThrough.tidy {ρ μ : Type} [TrafficSource ρ] [ResponseSource μ] :
    Simulation.Tidy (κ := PassThrough) (ρ := ρ) (μ := μ) (fun _ => True) fun _ => False where
  serve _ := .trivially _
  retry _ := trivial
  issue _ := (Gives.trivially _).mono fun _ _ _ => trivial
  wait _ _ _ := trivial
  tick _ _ _ := trivial
  handle {_ _ _ event} _ _ _ _ := nomatch event
  windDown {_ _ event} _ _ _ _ := nomatch event
  quiet _ _ calm := calm.elim

namespace SecureModule

variable {ρ μ : Type} {rig next : Rig SecureModule ρ μ (SimulationEvent SecureEvent)}

/-- The clock of the module ticks, and no edge is scheduled but by its driver. -/
structure Tended (rig : Rig SecureModule ρ μ (SimulationEvent SecureEvent)) : Prop where
  ticks : rig.component.Ticks
  owns : rig.component.driver.Owns rig.events (.component .edge)

/-- Between two events, ends of checks are all that is left of a module that was wound down. -/
def quiet (event : SecureEvent) : Prop :=
  event ≠ .edge

namespace Tended

variable (tended : Tended rig)
include tended

theorem of_untouched (same : Untouched rig next) : Tended next where
  ticks := by
    rw [Ticks, same.config]
    exact tended.ticks
  owns := by
    rw [same.driver, same.events]
    exact tended.owns

theorem schedule {other : SimulationEvent SecureEvent} (apart : other ≠ .component .edge)
    (tick : Nat) (priority : Int) :
    Tended { rig with events := rig.events.scheduled tick priority other } where
  ticks := tended.ticks
  owns := tended.owns.schedule apart tick priority

theorem fire {entry : EventEntry (SimulationEvent SecureEvent)}
    {rest : List (EventEntry (SimulationEvent SecureEvent))}
    (pending : rig.events.pending = entry :: rest) :
    Tended { rig with events := rig.events.after entry rest } where
  ticks := tended.ticks
  owns := tended.owns.fire pending

theorem serveResponse [TrafficSource ρ] [ResponseSource μ] :
    Gives (fun _ => True) (Simulation.serveResponse rig) Tended := by
  unfold Simulation.serveResponse
  split
  case h_1 memory _ => exact tended.of_untouched ⟨rfl, rfl, rfl⟩
  case h_2 packet memory _ =>
    change Gives _ (Except.ok (response packet { rig with memory }) >>= _) _
    rw [ok_bind]
    have same := response_untouched packet { rig with memory }
    generalize response packet { rig with memory } = result at same ⊢
    rcases result with ⟨_ | back, next⟩
    · exact tended.of_untouched ⟨same.config, same.driver, same.events⟩
    · exact tended.of_untouched ⟨same.config, same.driver, same.events⟩

theorem passRetry [TrafficSource ρ] [ResponseSource μ] : Tended (Simulation.passRetry rig) := by
  unfold Simulation.passRetry
  rcases ResponseSource.settleRetry rig.memory with ⟨_ | _, memory⟩
  · exact tended.of_untouched ⟨rfl, rfl, rfl⟩
  · have same := requestRetry_untouched { rig with memory }
    exact tended.of_untouched ⟨same.config, same.driver, same.events⟩

theorem issueRequest [TrafficSource ρ] [ResponseSource μ] :
    Gives (fun _ => True) (Simulation.issueRequest rig) fun result => Tended result.2 := by
  unfold Simulation.issueRequest
  apply (Gives.trivially (TrafficSource.next rig.now rig.requester)).bind
  rintro ⟨_ | packet, requester⟩ -
  · exact tended.of_untouched ⟨rfl, rfl, rfl⟩
  · have before : Tended { rig with requester } := tended.of_untouched ⟨rfl, rfl, rfl⟩
    apply ((request_requests before.ticks packet).weaken fun _ _ => trivial).bind
    rintro ⟨answer, next⟩ requests
    cases requests with
    | unclassified => exact before
    | @admitted readyAt future =>
      have apart : SimulationEvent.component (.checkOver rig.component.gate.slots.acquire.1) ≠
          SimulationEvent.component SecureEvent.edge := by simp
      exact (before.schedule apart readyAt Priority.standard).of_untouched ⟨rfl, rfl, rfl⟩
    | refused => exact before.of_untouched ⟨rfl, rfl, rfl⟩

omit tended in
/-- The driver works at an edge, and is the only one to schedule the next. -/
theorem handle_edge [ResponseSink ρ] [RequestSink μ] (ticks : rig.component.Ticks)
    (alone : ∀ entry ∈ rig.events.pending, entry.payload ≠ .component .edge) :
    Gives Overflow (Intermediary.handle SecureEvent.edge rig) fun result => Tended result.2 := by
  have ticks' : (edgeWork rig).component.Ticks := by
    rw [Ticks, edgeWork_config]
    exact ticks
  rw [← edgeWork_events rig] at alone
  cases stopped : rig.component.driver.stopped with
  | true =>
    apply (handle_edge_of_stopped ticks stopped).mono
    rintro _ rfl
    exact ⟨ticks', .of_absent alone⟩
  | false =>
    apply (handle_edge_of_going ticks stopped).mono
    rintro _ rfl
    exact ⟨ticks', RepeatingEvent.awaiting_owns alone _ _⟩

/-- The first event to come is processed, and it is one of the module. -/
theorem handle [ResponseSink ρ] [RequestSink μ] {event : SecureEvent}
    {entry : EventEntry (SimulationEvent SecureEvent)}
    {rest : List (EventEntry (SimulationEvent SecureEvent))} (distinct : rig.events.Distinct)
    (pending : rig.events.pending = entry :: rest) (inner : entry.payload = .component event) :
    Gives Overflow (Intermediary.handle event { rig with events := rig.events.after entry rest })
      fun result => Tended result.2 := by
  cases event with
  | checkOver slot => exact .ok ((tended.fire pending).of_untouched ⟨rfl, rfl, rfl⟩)
  | edge => exact handle_edge tended.ticks (tended.owns.absent_of_fired distinct pending inner)

end Tended

theorem tidy [TrafficSource ρ] [ResponseSource μ] :
    Simulation.Tidy (Tended (ρ := ρ) (μ := μ)) quiet where
  serve now := now.serveResponse
  retry now := now.passRetry
  issue now := now.issueRequest.mono fun _ kept _ => kept
  wait now := now.schedule nofun
  tick now pending _ := now.fire pending
  handle now distinct pending inner :=
    ((now.handle distinct pending inner).weaken fun _ _ => trivial).mono fun _ kept _ => kept
  windDown {rig entry event} now _ member inner := by
    rintro rfl
    exact now.owns.absent_of_halt entry member inner
  quiet rig event calm := by
    cases event with
    | edge => exact absurd rfl calm
    | checkOver slot => exact ⟨_, rfl⟩

theorem start_tended {config : SecureModuleConfig} (ticks : (fresh config).Ticks)
    (requester : ρ) (memory : μ) :
    Gives Overflow (Intermediary.start (.assemble (fresh config) requester memory)) Tended := by
  let opened : Rig SecureModule ρ μ (SimulationEvent SecureEvent) :=
    .assemble (fresh config) requester memory
  have alone : ∀ entry ∈ opened.events.pending, entry.payload ≠ .component .edge :=
    fun _ member => absurd member List.not_mem_nil
  have started : Gives Overflow (scheduleEdge opened) fun rig => rig = awaitingEdge opened :=
    scheduleEdge_of_free ticks rfl
  apply started.mono
  rintro _ rfl
  exact ⟨ticks, RepeatingEvent.awaiting_owns alone _ _⟩

end SecureModule

namespace SimulationEvent

variable {ε : Type}

def isInner : SimulationEvent ε → Bool
  | .component _ => true
  | .clock => false

def inner (queue : EventQueue (SimulationEvent ε)) : Nat :=
  queue.pending.countP fun entry => entry.payload.isInner

variable {queue : EventQueue (SimulationEvent ε)}

theorem inner_scheduled (tick : Nat) (priority : Int) (payload : SimulationEvent ε) :
    inner (queue.scheduled tick priority payload) =
      inner queue + if payload.isInner then 1 else 0 := by
  rw [inner, EventQueue.scheduled, (insertEntry_perm _ _).countP_eq, List.countP_cons, inner]

theorem inner_after {entry : EventEntry (SimulationEvent ε)}
    {rest : List (EventEntry (SimulationEvent ε))} (pending : queue.pending = entry :: rest) :
    inner queue = inner (queue.after entry rest) + if entry.payload.isInner then 1 else 0 := by
  rw [inner, pending, List.countP_cons]
  rfl

theorem inner_pos {entry : EventEntry (SimulationEvent ε)} (member : entry ∈ queue.pending)
    {event : ε} (own : entry.payload = .component event) : 0 < inner queue :=
  List.countP_pos_iff.2 ⟨entry, member, by rw [own]; rfl⟩

end SimulationEvent

namespace MemoryModel

/-- A response that is taken out is no longer in service. -/
theorem length_takeReady (now : Nat) (memory : MemoryModel) :
    (memory.takeReady now).2.serving.length + (memory.takeReady now).1.toList.length =
      memory.serving.length := by
  unfold takeReady
  split
  · rfl
  · split
    case h_1 serving => simp [serving]
    case h_2 due packet rest serving =>
      split <;> simp [serving]

/-- A request that is offered adds one response to those in service at most. -/
theorem length_offer_le (packet : Packet) (now : Nat) (memory : MemoryModel) :
    (memory.offer packet now).2.serving.length ≤ memory.serving.length + 1 := by
  unfold offer
  split
  · cases packet.response? <;> simp
  · exact Nat.le_succ _

theorem serving_settleRetry (memory : MemoryModel) :
    memory.settleRetry.2.serving = memory.serving := by
  unfold settleRetry
  split <;> rfl

end MemoryModel

namespace FixedLatencyLink

abbrev Span := Rig FixedLatencyLink RequestGenerator MemoryModel (SimulationEvent LinkEvent)

/-- Each packet on the link and each request in service belongs to a request that was issued and
whose response is not back. -/
structure Accounted (rig : Span) : Prop where
  ticks : rig.component.Ticks
  created : rig.requester.stats.issued + rig.requester.held.toList.length ≤ rig.requester.created
  bounded : rig.requester.created ≤ rig.requester.workload.numRequests
  flying : SimulationEvent.inner rig.events + rig.memory.serving.length +
    rig.requester.stats.responses ≤ rig.requester.stats.issued

namespace Accounted

variable {rig : Span} (accounted : Accounted rig)
include accounted

theorem carry (event : LinkEvent) (requester : RequestGenerator) (memory : MemoryModel)
    (created : requester.stats.issued + requester.held.toList.length ≤ requester.created)
    (bounded : requester.created ≤ requester.workload.numRequests)
    (room : SimulationEvent.inner rig.events + memory.serving.length +
      requester.stats.responses < requester.stats.issued) :
    Accounted (carrying { rig with requester, memory } event) where
  ticks := accounted.ticks
  created := created
  bounded := bounded
  flying := by
    have more : SimulationEvent.inner (carrying { rig with requester, memory } event).events =
        SimulationEvent.inner rig.events + 1 := SimulationEvent.inner_scheduled _ _ _
    rw [more]
    simp only [carrying]
    omega

theorem serveResponse : Gives (fun _ => True) (Simulation.serveResponse rig) Accounted := by
  have length : (ResponseSource.takeReady rig.now rig.memory).2.serving.length +
      (ResponseSource.takeReady rig.now rig.memory).1.toList.length = rig.memory.serving.length :=
    rig.memory.length_takeReady rig.now
  have flying := accounted.flying
  unfold Simulation.serveResponse
  generalize ResponseSource.takeReady rig.now rig.memory = outcome at length ⊢
  rcases outcome with ⟨_ | packet, memory⟩
  · simp only [Option.toList_none, List.length_nil, Nat.add_zero] at length
    exact { accounted with flying := length ▸ flying }
  · simp only [Option.toList_some, List.length_singleton] at length
    have sent := response_gives { rig with memory } accounted.ticks packet
    apply (sent.weaken fun _ _ => trivial).bind
    rintro _ rfl
    exact accounted.carry _ rig.requester memory accounted.created accounted.bounded (by omega)

theorem passRetry : Accounted (Simulation.passRetry rig) := by
  have serving : (ResponseSource.settleRetry rig.memory).2.serving = rig.memory.serving :=
    rig.memory.serving_settleRetry
  have flying := accounted.flying
  unfold Simulation.passRetry
  generalize ResponseSource.settleRetry rig.memory = outcome at serving ⊢
  rcases outcome with ⟨_ | _, memory⟩
  · exact { accounted with flying := serving ▸ flying }
  · exact { accounted with flying := serving ▸ flying }

theorem issueRequest : Gives (fun _ => True) (Simulation.issueRequest rig)
    fun result => Accounted result.2 := by
  have next := rig.requester.next_gives rig.now
  unfold Simulation.issueRequest
  change Gives _ (rig.requester.next rig.now >>= _) _
  generalize rig.requester.next rig.now = asked at next ⊢
  cases asked with
  | error => trivial
  | ok outcome =>
    rw [ok_bind]
    cases next with
    | idle => exact accounted
    | @offers packet requester offers =>
      obtain ⟨created, bounded⟩ := offers.counted accounted.created accounted.bounded
      obtain ⟨empty, -, stats, workload⟩ := offers.after
      have flying := accounted.flying
      have sent := request_gives { rig with requester } accounted.ticks packet
      apply (sent.weaken fun _ _ => trivial).bind
      rintro _ rfl
      refine accounted.carry (.requestArrives packet) requester.accepted rig.memory ?_ ?_ ?_
      · simp only [RequestGenerator.accepted, empty, stats]
        exact created
      · exact workload ▸ bounded
      · simp only [RequestGenerator.accepted, stats]
        omega

theorem fire {entry : EventEntry (SimulationEvent LinkEvent)}
    {rest : List (EventEntry (SimulationEvent LinkEvent))}
    (pending : rig.events.pending = entry :: rest) :
    Accounted { rig with events := rig.events.after entry rest } where
  ticks := accounted.ticks
  created := accounted.created
  bounded := accounted.bounded
  flying := by
    have flying := accounted.flying
    have fewer := SimulationEvent.inner_after pending
    simp only
    omega

theorem handle (event : LinkEvent) (arrived : SimulationEvent.inner rig.events +
    rig.memory.serving.length + rig.requester.stats.responses < rig.requester.stats.issued) :
    Accounted (FixedLatencyLink.handle event rig).2 := by
  cases event with
  | requestArrives packet =>
    have more : (RequestSink.offer packet rig.now rig.memory).2.serving.length ≤
        rig.memory.serving.length + 1 := rig.memory.length_offer_le packet rig.now
    rw [FixedLatencyLink.handle]
    generalize RequestSink.offer packet rig.now rig.memory = outcome at more ⊢
    rcases outcome with ⟨_ | back, memory⟩
    all_goals exact { accounted with flying := by simp only at more ⊢; omega }
  | responseArrives packet =>
    rw [FixedLatencyLink.handle, receiveResponse]
    split
    · exact { accounted with flying := Nat.le_of_lt arrived }
    · exact { accounted with flying := arrived }

end Accounted

theorem tidy : Simulation.Tidy Accounted fun _ => False where
  serve now := now.serveResponse
  retry now := now.passRetry
  issue now := now.issueRequest.mono fun _ kept _ => kept
  wait {rig} now tick priority := by
    have same : SimulationEvent.inner (rig.events.scheduled tick priority .clock) =
        SimulationEvent.inner rig.events := SimulationEvent.inner_scheduled tick priority .clock
    exact { now with flying := same ▸ now.flying }
  tick now pending _ := now.fire pending
  handle {rig entry rest event} now _ pending inner := by
    have flying := now.flying
    have fewer := SimulationEvent.inner_after pending
    simp only [inner, SimulationEvent.isInner, ↓reduceIte] at fewer
    have arrived := (now.fire pending).handle event (by simp only; omega)
    exact fun _ => arrived
  windDown {rig entry event} now finished member inner := by
    have flying := now.flying
    have created := now.created
    have bounded := now.bounded
    have left : 0 < SimulationEvent.inner rig.events := SimulationEvent.inner_pos member inner
    have all : rig.requester.workload.numRequests ≤ rig.requester.stats.responses :=
      of_decide_eq_true finished
    omega
  quiet _ _ calm := calm.elim

end FixedLatencyLink

namespace BenchmarkConfig

/-- The run of each component can be made in parts, whatever the workload and the memory are. -/
theorem runs_split (config : BenchmarkConfig) :
    Simulation.Splits ({} : PassThrough) config ∧
    (∀ link, FixedLatencyLink.build config.link = .ok link → Simulation.Splits link config) ∧
    ∀ module, SecureModule.build config.secureModule = .ok module →
      Simulation.Splits module config := by
  refine ⟨Simulation.splits_of_tidy PassThrough.frugal trivial PassThrough.tidy trivial, ?_, ?_⟩
  · intro link built
    obtain ⟨rfl, ticks⟩ := FixedLatencyLink.eq_fresh_of_build built
    refine Simulation.splits_of_tidy FixedLatencyLink.frugal ticks FixedLatencyLink.tidy ?_
    exact ⟨ticks, Nat.le_refl _, Nat.zero_le _, Nat.le_refl _⟩
  · intro module built
    obtain ⟨rfl, ticks⟩ := SecureModule.eq_fresh_of_build built
    refine Simulation.splits_of_tidy SecureModule.frugal ticks SecureModule.tidy ?_
    exact (SecureModule.start_tended ticks _ _).weaken fun _ _ => trivial

/-- Two writes, one after the other, to a fast memory. -/
def twoWrites : BenchmarkConfig where
  memory := { accessLatency := 3 }
  workload := { numRequests := 2, readFraction := 0, maxOutstanding := 1 }

/-- Between the two writes the run of the module has stalled, and goes on from there. It tells of
both however often it is asked after that. -/
theorem runs_split_two_writes :
    ∃ (sim early late : Simulation SecureModule RequestGenerator MemoryModel SecureEvent)
      (summary : RunSummary), SecureModule.build twoWrites.secureModule =
        .ok (SecureModule.fresh twoWrites.secureModule) ∧
      Simulation.start (SecureModule.fresh twoWrites.secureModule) (.fresh twoWrites.workload)
        (.idle twoWrites.memory) = .ok sim ∧
      sim.run 10 = .ok (.error (.stalled 10), early) ∧ early.run 60 = sim.run 60 ∧
      sim.run 60 = .ok (.ok summary, late) ∧ summary.ticks = 16 ∧
      (sim.run 70).map Prod.fst = .ok (.ok summary) ∧
      (late.rerun [0, 80]).map Prod.fst = .ok [.ok summary, .ok summary] := by
  have built : SecureModule.build twoWrites.secureModule =
      .ok (SecureModule.fresh twoWrites.secureModule) := rfl
  obtain ⟨sim, started, splits⟩ := ((runs_split twoWrites).2.2 _ built).yields_of_isOk rfl
  have stalls : ∃ early : Simulation SecureModule RequestGenerator MemoryModel SecureEvent,
      Simulation.start (SecureModule.fresh twoWrites.secureModule) (.fresh twoWrites.workload)
        (.idle twoWrites.memory) >>= Simulation.run 10 = .ok (.error (.stalled 10), early) :=
    ⟨_, rfl⟩
  have ends : ∃ summary, ∃ late : Simulation SecureModule RequestGenerator MemoryModel SecureEvent,
      Simulation.start (SecureModule.fresh twoWrites.secureModule) (.fresh twoWrites.workload)
        (.idle twoWrites.memory) >>= Simulation.run 60 = .ok (.ok summary, late) ∧
      summary.ticks = 16 :=
    ⟨_, _, rfl, rfl⟩
  rw [started, ok_bind] at stalls ends
  obtain ⟨early, stalled⟩ := stalls
  obtain ⟨summary, late, ran, ticks⟩ := ends
  have resumes := (splits 10 _ early stalled fun error same => by cases same; trivial).1
  have settled := (splits 60 _ late ran nofun).2 summary rfl
  exact ⟨sim, early, late, summary, built, started, stalled, resumes 60 (by decide), ran, ticks,
    settled.1 70 (by decide), settled.2 [0, 80]⟩

end BenchmarkConfig

end GatedMemory
