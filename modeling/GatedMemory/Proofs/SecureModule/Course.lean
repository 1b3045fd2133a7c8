import GatedMemory.Proofs.Dated
import GatedMemory.Proofs.SecureModule.Timing

/-!
The course of a simulated secure module. Until the requester waits for nothing, the clock is to tick
next at one tick, the driver to work at one edge, and each check under way to end at its tick. A
property of such states holds throughout a run if it survives the actions one by one.
-/

set_option autoImplicit false

namespace GatedMemory

namespace Pipeline

def withSlots (pipe : Pipeline) (slots : SlotTable) : Pipeline :=
  { pipe with component := { pipe.component with gate := { pipe.component.gate with slots } } }

/-- A property of the pipeline between two events, given what was offered so far, the next tick of
the clock, the next edge, and the checks under way. Every action keeps it. -/
structure Lasting
    (live : List (Nat × Packet) → Nat → Nat → List (Nat × SlotId) → Pipeline → Prop) : Prop where
  wait {log : List (Nat × Packet)} {clock edge : Nat} {checks : List (Nat × SlotId)}
    {pipe : Pipeline} (holds : live log clock edge checks pipe) (driver : RepeatingEvent)
    {events : EventQueue (SimulationEvent SecureEvent)} (passed : pipe.now ≤ events.now) :
    live log clock edge checks { pipe with component := { pipe.component with driver }, events }
  check {log : List (Nat × Packet)} {clock edge : Nat} {checks : List (Nat × SlotId)}
    {pipe : Pipeline} (holds : live log clock edge checks pipe) {check : Nat × SlotId}
    (member : check ∈ checks) {events : EventQueue (SimulationEvent SecureEvent)}
    (passed : pipe.now ≤ events.now) (due : check.1 = events.now) :
    live log clock edge (checks.erase check) (pipe.checkedOff check.2 events)
  work {log : List (Nat × Packet)} {clock : Nat} {checks : List (Nat × SlotId)}
    {pipe : Pipeline} (holds : live log clock clock checks pipe) (ordered : pipe.Ordered)
    (now : pipe.now = clock) :
    live log clock (clock + pipe.component.config.clockPeriod) checks (SecureModule.edgeWork pipe)
  serve {log : List (Nat × Packet)} {clock edge : Nat} {checks : List (Nat × SlotId)}
    {pipe next : Pipeline} (holds : live log clock edge checks pipe) (ordered : pipe.Ordered)
    (now : pipe.now = clock) (before : clock < edge) (serves : pipe.Serves next) :
    live log clock edge checks next
  retry {log : List (Nat × Packet)} {clock edge : Nat} {checks : List (Nat × SlotId)}
    {pipe next : Pipeline} (holds : live log clock edge checks pipe) (ordered : pipe.Ordered)
    (now : pipe.now = clock) (before : clock < edge) (retries : pipe.Retries next) :
    live log clock edge checks next
  send {log : List (Nat × Packet)} {clock edge : Nat} {checks opened : List (Nat × SlotId)}
    {pipe next : Pipeline} {offered : Option Packet} (holds : live log clock edge checks pipe)
    (ordered : pipe.Ordered) (now : pipe.now = clock) (before : clock < edge)
    (sends : pipe.Sends offered opened next) :
    live (log ++ offered.toList.map (clock, ·)) (clock + 1) edge (opened ++ checks) next

theorem edgeWork_config (pipe : Pipeline) :
    (SecureModule.edgeWork pipe).component.config = pipe.component.config := by
  simp only [SecureModule.edgeWork, SecureModule.settleResponseRetry,
    SecureModule.settleRequestRetry]
  split <;> split <;> rfl

variable {pipe next : Pipeline} {offered : Option Packet} {opened checks : List (Nat × SlotId)}

/-- The requester's turn to send adds the ends of the checks that begin. -/
theorem Sends.coming (sends : pipe.Sends offered opened next)
    (period : 0 < pipe.component.config.clockPeriod) {edge : Nat}
    (awaits : pipe.events.Awaits
      ((edge, .component .edge) :: checks.map SecureEvent.checkEnd)) :
    next.events.Awaits
      ((edge, .component .edge) :: (opened ++ checks).map SecureEvent.checkEnd) := by
  cases sends with
  | idle => exact awaits
  | admitted => exact (awaits.schedule (Clock.le_edge period) _ _).reorder (.swap _ _ _)
  | refused => exact awaits

theorem Serves.config (serves : pipe.Serves next) :
    next.component.config = pipe.component.config := by
  cases serves <;> rfl

theorem Retries.config (retries : pipe.Retries next) :
    next.component.config = pipe.component.config := by
  cases retries <;> rfl

theorem Sends.frame (sends : pipe.Sends offered opened next) : next.now = pipe.now ∧
    next.component.config = pipe.component.config := by
  cases sends <;> exact ⟨rfl, rfl⟩

end Pipeline

namespace Simulation

variable {sim : Simulation SecureModule RecordedRequester RecordedMemory SecureEvent}
  {live : List (Nat × Packet) → Nat → Nat → List (Nat × SlotId) → Pipeline → Prop}
  {log : List (Nat × Packet)} {clock edge : Nat} {checks : List (Nat × SlotId)}

/-- Between two events of a run that goes on: when the clock and the driver come next, and which
checks are under way. -/
structure Course (sim : Simulation SecureModule RecordedRequester RecordedMemory SecureEvent)
    (clock edge : Nat) (checks : List (Nat × SlotId)) : Prop where
  ordered : Pipeline.Ordered sim.rig
  driven : Pipeline.Driven sim.rig
  awaits : sim.rig.events.Awaits
    ((clock, .clock) :: (edge, .component .edge) :: checks.map SecureEvent.checkEnd)
  /-- The clock comes before the driver, or in the same tick after it. -/
  apart : clock ≤ edge
  grid : sim.rig.component.config.clockPeriod ∣ edge
  going : sim.clock.stopped = false
  priority : sim.clock.priority = Priority.external
  unfinished : sim.finishedAt = none

/-- A run goes on with the property, or every response has come and only checks are left, which
change nothing but slots. -/
inductive Stays
    (live : List (Nat × Packet) → Nat → Nat → List (Nat × SlotId) → Pipeline → Prop)
    (log : List (Nat × Packet))
    (sim : Simulation SecureModule RecordedRequester RecordedMemory SecureEvent) : Prop where
  | going {clock edge : Nat} {checks : List (Nat × SlotId)} (course : sim.Course clock edge checks)
    (holds : live log clock edge checks sim.rig)
  | ended {clock edge : Nat} {checks : List (Nat × SlotId)} {slots : SlotTable}
    (ordered : Pipeline.Ordered sim.rig)
    (finished : sim.rig.requester.peer.isFinished = true) (sound : sim.rig.events.Sound)
    (only : ∀ entry ∈ sim.rig.events.pending, ∃ slot,
      entry.payload = .component (.checkOver slot))
    (held : live log clock edge checks (Pipeline.withSlots sim.rig slots))

namespace Stays

variable (stays : sim.Stays live log)
include stays

theorem ordered : Pipeline.Ordered sim.rig := by
  cases stays with
  | going course => exact course.ordered
  | ended ordered => exact ordered

/-- Whether the run goes on or not, the property holds but for the slots. -/
theorem held : ∃ clock edge checks slots,
    live log clock edge checks (Pipeline.withSlots sim.rig slots) := by
  cases stays with
  | going _ holds => exact ⟨_, _, _, sim.rig.component.gate.slots, holds⟩
  | ended _ _ _ _ held => exact ⟨_, _, _, _, held⟩

theorem isFinished {summary : RunSummary} (ended : sim.summary = .ok summary) :
    sim.rig.requester.peer.isFinished = true := by
  cases stays with
  | going course =>
    simp only [Simulation.summary, course.unfinished] at ended
    cases ended
  | ended _ finished => exact finished

end Stays

section

variable {entry : EventEntry (SimulationEvent SecureEvent)}
  {rest : List (EventEntry (SimulationEvent SecureEvent))}
  (course : sim.Course clock edge checks) (holds : live log clock edge checks sim.rig)
  (pending : sim.rig.events.pending = entry :: rest) (lasting : Pipeline.Lasting live)
include course holds pending lasting

theorem Course.check_step {check : Nat × SlotId} (member : check ∈ checks)
    (fires : SecureEvent.checkEnd check = (entry.tick, entry.payload)) :
    Gives Overflow (handle entry.payload
        { sim with rig := { sim.rig with events := sim.rig.events.after entry rest } })
      fun result => result.1 = none ∧ result.2.Stays live log := by
  have awaits := course.awaits
  have split := List.perm_cons_erase member
  have elapsed : sim.rig.now ≤ entry.tick := awaits.now_le pending
  have fired : (sim.rig.events.after entry rest).Awaits ((clock, .clock) ::
      (edge, .component .edge) :: (checks.erase check).map SecureEvent.checkEnd) := by
    refine awaits.fire pending ?_
    rw [← fires]
    exact ((split.map SecureEvent.checkEnd).append_left [_, _]).trans List.perm_middle
  obtain ⟨tick, payload⟩ := Prod.mk.inj fires
  rw [← payload]
  apply handle_gives
  exact .ok ⟨rfl, .going
    { course with
      ordered := { course.ordered with }
      driven := { course.driven.fire pending with }
      awaits := fired }
    (lasting.check holds member elapsed tick)⟩

theorem Course.edge_step
    (fires : (entry.tick, entry.payload) = (edge, SimulationEvent.component SecureEvent.edge)) :
    Gives Overflow (handle entry.payload
        { sim with rig := { sim.rig with events := sim.rig.events.after entry rest } })
      fun result => result.1 = none ∧ result.2.Stays live log := by
  obtain ⟨rfl, payload⟩ := Prod.mk.inj fires
  have awaits := course.awaits
  have elapsed : sim.rig.now ≤ entry.tick := awaits.now_le pending
  -- the clock ticks at this edge, after the driver
  have same : clock = entry.tick := Nat.le_antisymm course.apart
    (EventQueue.first_le awaits.sound pending (awaits.agenda.mem_iff.2 List.mem_cons_self))
  subst same
  have fired : (sim.rig.events.after entry rest).Awaits
      ((entry.tick, .clock) :: checks.map SecureEvent.checkEnd) := by
    refine awaits.fire pending ?_
    rw [payload]
    exact .swap _ _ _
  let before : Pipeline := { sim.rig with events := sim.rig.events.after entry rest }
  have ordered : before.Ordered := { course.ordered with }
  have begun : live log entry.tick entry.tick checks before :=
    lasting.wait holds sim.rig.component.driver elapsed
  have done := lasting.work begun ordered rfl
  have kept := ordered.edgeWork
  have grid : before.component.config.clockPeriod ∣ entry.tick := course.grid
  have config := Pipeline.edgeWork_config before
  have events : (SecureModule.edgeWork before).events = sim.rig.events.after entry rest :=
    SecureModule.edgeWork_events before
  have driver := SecureModule.edgeWork_driver before
  rw [payload]
  apply handle_gives
  rw [react_edge]
  change Gives Overflow ((SecureModule.scheduleEdge (SecureModule.edgeWork before)).map _) _
  generalize SecureModule.edgeWork before = worked at done kept config events driver ⊢
  have period := kept.period
  have now : worked.events.now = entry.tick := by rw [events]; rfl
  have later : Clock.edge worked.now 1 worked.component.config.clockPeriod =
      entry.tick + before.component.config.clockPeriod := by
    rw [Rig.now, now, config, Clock.edge_of_dvd ordered.period grid, Nat.one_mul]
  have absent : ∀ event ∈ worked.events.agenda, event.2 ≠ .component SecureEvent.edge := by
    intro event member
    rw [events, fired.agenda.mem_iff, List.mem_cons] at member
    rcases member with rfl | member
    · exact nofun
    · obtain ⟨check, -, rfl⟩ := List.mem_map.1 member
      exact nofun
  have awaited : worked.events.Awaits ((entry.tick, .clock) :: checks.map SecureEvent.checkEnd) :=
    events ▸ fired
  obtain ⟨free, driven, -⟩ := course.driven.edge pending events driver absent
  apply (SecureModule.scheduleEdge_of_free period free).map
  rintro _ rfl
  have next : Course { sim with rig := SecureModule.awaitingEdge worked } entry.tick
      (entry.tick + before.component.config.clockPeriod) checks := {
    ordered := { kept with }
    driven := driven
    awaits := by
      rw [← later]
      exact (awaited.schedule (Clock.le_edge period) _ _).reorder (.swap _ _ _)
    apart := Nat.le_add_right _ _
    grid := by
      change worked.component.config.clockPeriod ∣ _
      rw [config]
      exact Nat.dvd_add_self_right.2 grid
    going := course.going
    priority := course.priority
    unfinished := course.unfinished }
  exact ⟨rfl, .going next (lasting.wait done _ (Nat.le_refl worked.now))⟩

theorem Course.clock_step
    (fires : (entry.tick, entry.payload) = (clock, SimulationEvent.clock)) :
    Gives Overflow (handle entry.payload
        { sim with rig := { sim.rig with events := sim.rig.events.after entry rest } })
      fun result => result.1 = none ∧ result.2.Stays live (log ++ offering .clock
        { sim with rig := { sim.rig with events := sim.rig.events.after entry rest } }) := by
  obtain ⟨rfl, payload⟩ := Prod.mk.inj fires
  have elapsed : sim.rig.now ≤ entry.tick := course.awaits.now_le pending
  have before : entry.tick < edge := course.driven.clock_lt_edge pending course.awaits
    (List.mem_cons_of_mem _ List.mem_cons_self) payload
  have fired : (sim.rig.events.after entry rest).Awaits
      ((edge, .component .edge) :: checks.map SecureEvent.checkEnd) :=
    course.awaits.fire pending (.of_eq (by rw [payload]))
  let begun : Pipeline := { sim.rig with events := sim.rig.events.after entry rest }
  have ordered : begun.Ordered := { course.ordered with }
  rw [payload]
  apply handle_gives
  apply tick_gives
  apply (turns_sends ordered).mono
  rintro ⟨_, issued⟩ ⟨rfl, served, offered, source, opened, serve, serves, retries, next, sends⟩
  simp only at sends
  refine ⟨rfl, ?_⟩
  obtain ⟨-, servedEvents, -⟩ := serves.frame
  obtain ⟨-, retriedEvents, -⟩ := retries.frame
  have events : (passRetry served).events = sim.rig.events.after entry rest :=
    retriedEvents.trans servedEvents
  have servedNow : served.now = entry.tick := congrArg EventQueue.now servedEvents
  have retriedNow : (passRetry served).now = entry.tick := congrArg EventQueue.now events
  have offers : offering .clock { sim with rig := begun } =
      offered.toList.map (entry.tick, ·) := by
    simp only [offering, serve, next]
    rw [retriedNow]
  -- memory, the retry and the requester have their turns
  have first : live log entry.tick edge checks begun :=
    lasting.wait holds sim.rig.component.driver elapsed
  have second := lasting.serve first ordered rfl before serves
  have servedOrdered := ordered.serve serves
  have third := lasting.retry second servedOrdered servedNow before retries
  have retriedOrdered := servedOrdered.retry retries
  have fourth := lasting.send third retriedOrdered retriedNow before sends
  have issuedOrdered := (retriedOrdered.issue sends.issues).2
  have coming := sends.coming retriedOrdered.period (events ▸ fired)
  obtain ⟨issuedNow, sentConfig⟩ := sends.frame
  have config := sentConfig.trans (retries.config.trans serves.config)
  have now : issued.now = entry.tick := issuedNow.trans retriedNow
  obtain ⟨driven, -⟩ := (course.driven.fire pending).turns serves retries sends.issues
  let after : Simulation SecureModule RecordedRequester RecordedMemory SecureEvent :=
    ⟨issued, sim.clock.occurred, sim.finishedAt⟩
  rw [offers]
  apply (finishOrContinue_ends after).mono
  rintro final (finished | ⟨unfinished, free⟩ | ⟨-, busy⟩)
  · have halted := RepeatingEvent.now_halt issued.component.driver issued.events
    exact ⟨rfl, .ended { issuedOrdered with } finished
      (RepeatingEvent.halt_sound _ coming.sound) (driven.mem_halt coming)
      (lasting.wait fourth issued.component.driver.stop (Nat.le_of_eq halted.symm))⟩
  · have ticking := awaitingTick_ticking after coming course.going
    have later : after.now + 1 = entry.tick + 1 := congrArg Nat.succ now
    rw [later] at ticking
    have driving := driven.schedule course.priority
      (SimulationEvent.clock_ne_component SecureEvent.edge) (issued.now + 1)
    have next : Course after.awaitingTick (entry.tick + 1) edge (opened ++ checks) := {
      ordered := { issuedOrdered with }
      driven := { driving with }
      awaits := ticking.awaits
      apart := before
      grid := by
        change issued.component.config.clockPeriod ∣ edge
        rw [config]
        exact course.grid
      going := course.going
      priority := course.priority
      unfinished := course.unfinished }
    exact ⟨rfl, .going next (lasting.wait fourth issued.component.driver (Nat.le_refl _))⟩
  · rw [RepeatingEvent.canSchedule_occurred course.going] at busy
    cases busy

end

/-- What lasts from action to action lasts from event to event. -/
theorem preservesLogged_of_lasting (lasting : Pipeline.Lasting live) :
    PreservesLogged fun log
      (sim : Simulation SecureModule RecordedRequester RecordedMemory SecureEvent) =>
      sim.Stays live log := by
  rintro log sim entry rest (⟨course, holds⟩ | ⟨ordered, finished, sound, only, held⟩) pending
  · obtain fires | fires | fires : (entry.tick, entry.payload) = (_, .clock) ∨
        (entry.tick, entry.payload) = (_, .component .edge) ∨
        (entry.tick, entry.payload) ∈ _ := by
      simpa only [List.mem_cons] using course.awaits.fires pending
    · have next := course.clock_step holds pending lasting fires
      obtain ⟨-, payload⟩ := Prod.mk.inj fires
      simp only [payload] at next ⊢
      exact next
    · have next := course.edge_step holds pending lasting fires
      obtain ⟨-, payload⟩ := Prod.mk.inj fires
      simp only [payload, offering, List.append_nil] at next ⊢
      exact next
    · obtain ⟨check, member, fires⟩ := List.mem_map.1 fires
      have next := course.check_step holds pending lasting member fires
      obtain ⟨-, payload⟩ := Prod.mk.inj fires
      simp only [← payload, offering, List.append_nil] at next ⊢
      exact next
  · have elapsed := EventQueue.now_le_of_pending sound pending
    rw [pending] at only
    obtain ⟨slot, payload⟩ := only entry List.mem_cons_self
    rw [payload, offering, List.append_nil]
    apply handle_gives
    exact .ok ⟨rfl, .ended { ordered with } finished (EventQueue.after_sound sound pending)
      (fun left member => only left (List.mem_cons_of_mem _ member))
      (lasting.wait held sim.rig.component.driver elapsed)⟩

theorem opening_course {config : BenchmarkConfig} (positive : config.Positive) :
    Course (opening config.secureModule (Recorded.blank (RequestGenerator.fresh config.workload))
      (Recorded.blank (MemoryModel.idle config.memory))) 0
      config.secureModule.clockPeriod [] := by
  let rig : Pipeline := SecureModule.awaitingEdge (.assemble
    (SecureModule.fresh config.secureModule)
    (Recorded.blank (RequestGenerator.fresh config.workload))
    (Recorded.blank (MemoryModel.idle config.memory)))
  have period : 0 < config.secureModule.clockPeriod := positive.period
  have first :
      Clock.edge 0 1 config.secureModule.clockPeriod = config.secureModule.clockPeriod := by
    rw [Clock.edge_of_dvd period (Nat.dvd_zero _), Nat.zero_add, Nat.one_mul]
  have awaits : rig.events.Awaits [(config.secureModule.clockPeriod, .component .edge)] := by
    rw [← first]
    exact EventQueue.awaits_empty.schedule (Nat.zero_le _) _ _
  have opened : rig.Driven := Pipeline.opening_driven config.secureModule _ _
  have driven := opened.schedule (show Priority.external = _ from rfl)
    (SimulationEvent.clock_ne_component SecureEvent.edge) 0
  exact {
    ordered := { assemble_ordered period positive.line config.memory with }
    driven := driven
    awaits := (begun_ticking awaits rfl).awaits
    apart := Nat.zero_le _
    grid := Nat.dvd_refl _
    going := rfl
    priority := rfl
    unfinished := rfl }

end Simulation

end GatedMemory
