import GatedMemory.Peer.Scripted
import GatedMemory.Proofs.SecureModule.Actions
import Mathlib.Data.List.Nodup

set_option autoImplicit false

namespace GatedMemory

namespace SecureModule

variable {ρ μ α : Type} {rig next : Rig SecureModule ρ μ α}

/-- Neither the driver nor the queue has changed, nor the configuration. -/
structure Untouched (rig next : Rig SecureModule ρ μ α) : Prop where
  config : next.component.config = rig.component.config
  driver : next.component.driver = rig.component.driver
  events : next.events = rig.events

theorem response_untouched (packet : Packet) (rig : Rig SecureModule ρ μ α) :
    Untouched rig (response packet rig).2 :=
  ⟨rfl, rfl, rfl⟩

theorem responseRetry_untouched (rig : Rig SecureModule ρ μ α) :
    Untouched rig (responseRetry rig) :=
  ⟨rfl, rfl, rfl⟩

theorem requestRetry_untouched [RequestSink μ] (rig : Rig SecureModule ρ μ α) :
    Untouched rig (requestRetry rig) :=
  ⟨rfl, rfl, rfl⟩

theorem edgeWork_config [ResponseSink ρ] [RequestSink μ] (rig : Rig SecureModule ρ μ α) :
    (edgeWork rig).component.config = rig.component.config := by
  simp only [edgeWork, settleResponseRetry, settleRequestRetry]
  split <;> split <;> rfl

variable [Embed SecureEvent α]

section

variable [ResponseSink ρ] [RequestSink μ] (period : 0 < rig.component.config.clockPeriod)
include period

theorem handle_edge_of_going (going : rig.component.driver.stopped = false) :
    Gives Overflow (Intermediary.handle SecureEvent.edge rig) fun result =>
      result = (none, awaitingEdge (edgeWork rig)) := by
  have pos : 0 < (edgeWork rig).component.config.clockPeriod := (edgeWork_config rig).symm ▸ period
  have free : (edgeWork rig).component.driver.canSchedule = true := by
    rw [edgeWork_driver]
    exact RepeatingEvent.canSchedule_occurred going
  apply (scheduleEdge_of_free pos free).bind
  rintro _ rfl
  exact .ok rfl

theorem handle_edge_of_stopped (stopped : rig.component.driver.stopped = true) :
    Gives Overflow (Intermediary.handle SecureEvent.edge rig) fun result =>
      result = (none, edgeWork rig) := by
  have pos : 0 < (edgeWork rig).component.config.clockPeriod := (edgeWork_config rig).symm ▸ period
  have busy : (edgeWork rig).component.driver.canSchedule = false := by
    rw [edgeWork_driver, RepeatingEvent.canSchedule, RepeatingEvent.occurred, stopped]
    rfl
  apply (scheduleEdge_of_busy pos busy).bind
  rintro _ rfl
  exact .ok rfl

/-- Once the driver was stopped, no event leads to another. -/
theorem handle_of_stopped (stopped : rig.component.driver.stopped = true) (event : SecureEvent) :
    Gives Overflow (Intermediary.handle event rig) fun result => result.2.events = rig.events := by
  cases event with
  | checkOver slot => exact .ok rfl
  | edge =>
    apply (handle_edge_of_stopped period stopped).mono
    rintro _ rfl
    exact edgeWork_events rig

end

/-- What asking the module to take a request can come to. -/
inductive Requests (rig : Rig SecureModule ρ μ α) (packet : Packet) :
    Except RunError Delivery × Rig SecureModule ρ μ α → Prop where
  | unclassified : Requests rig packet
      (.error (.unclassifiedCommand packet.command packet.address), rig)
  | admitted {readyAt : Nat} (future : rig.now ≤ readyAt) :
    Requests rig packet (.ok .accepted, admitting rig packet readyAt)
  | refused : Requests rig packet (.ok (.rejected packet), turningAway rig)

theorem request_requests (period : 0 < rig.component.config.clockPeriod) (packet : Packet) :
    Gives Overflow (request packet rig) (Requests rig packet) := by
  cases policy : rig.component.config.holdCycles packet.command.kind with
  | none =>
    simp only [request, SecureModuleConfig.holdCycles?, policy]
    exact .ok .unclassified
  | some cycles =>
    by_cases room : rig.component.gate.requests.items.length <
        rig.component.gate.requests.capacity
    · apply (request_of_lt rig policy period room).mono
      rintro _ rfl
      exact .admitted (Clock.le_edge period)
    · apply (request_of_le rig policy period (Nat.not_lt.1 room)).mono
      rintro _ rfl
      exact .refused

end SecureModule

/-- The ticks of the clock edges among some events. -/
def edgeTicks (events : List (Nat × SecureEvent)) : List Nat :=
  events.filterMap fun event =>
    match event.2 with
    | .edge => some event.1
    | .checkOver _ => none

/-- The ends of security checks among some events, each with its tick. -/
def checkEnds (events : List (Nat × SecureEvent)) : List (Nat × SlotId) :=
  events.filterMap fun event =>
    match event.2 with
    | .edge => none
    | .checkOver slot => some (event.1, slot)

section

variable {queue : EventQueue SecureEvent} {tick : Nat} {priority : Int} {slot : SlotId}

theorem edgeTicks_scheduled_check :
    edgeTicks (queue.scheduled tick priority (.checkOver slot)).agenda =
      edgeTicks queue.agenda := by
  rw [edgeTicks, edgeTicks, EventQueue.agenda, EventQueue.agenda, List.filterMap_map,
    List.filterMap_map]
  exact filterMap_insertEntry_of_none rfl queue.pending

theorem edgeTicks_scheduled_edge (none_due : edgeTicks queue.agenda = []) :
    edgeTicks (queue.scheduled tick priority .edge).agenda = [tick] := by
  have added : (edgeTicks (queue.scheduled tick priority .edge).agenda).Perm
      (tick :: edgeTicks queue.agenda) := EventQueue.agenda_scheduled.filterMap _
  rw [none_due] at added
  exact List.perm_singleton.1 added

theorem ne_edge_of_edgeTicks (none_due : edgeTicks queue.agenda = []) {event : Nat × SecureEvent}
    (member : event ∈ queue.agenda) : event.2 ≠ .edge := by
  intro edge
  have hidden := List.filterMap_eq_nil_iff.1 none_due event member
  rw [edge] at hidden
  cases hidden

theorem checkEnds_append (first second : List (Nat × SecureEvent)) :
    checkEnds (first ++ second) = checkEnds first ++ checkEnds second :=
  List.filterMap_append

theorem checkEnds_congr {gone agenda left : List (Nat × SecureEvent)}
    (same : (checkEnds agenda).Perm (checkEnds left)) :
    (checkEnds (gone ++ agenda)).Perm (checkEnds (gone ++ left)) := by
  rw [checkEnds_append, checkEnds_append]
  exact same.append_left _

theorem exists_edge (coming : tick ∈ edgeTicks queue.agenda) :
    ∃ entry ∈ queue.pending, entry.tick = tick ∧ entry.payload = .edge := by
  obtain ⟨event, member, shown⟩ := List.mem_filterMap.1 coming
  obtain ⟨entry, present, rfl⟩ := List.mem_map.1 member
  cases payload : entry.payload with
  | edge =>
    rw [payload] at shown
    exact ⟨entry, present, Option.some.inj shown, payload⟩
  | checkOver slot =>
    rw [payload] at shown
    cases shown

/-- Cancelling the only edge to come leaves the checks. -/
theorem cancel_edge {driver : RepeatingEvent} (distinct : queue.Distinct)
    (drives : driver.Drives queue .edge) (next : edgeTicks queue.agenda = [tick]) :
    edgeTicks (driver.halt queue).2.agenda = [] ∧
      (checkEnds queue.agenda).Perm (checkEnds (driver.halt queue).2.agenda) := by
  obtain ⟨id, pending, only⟩ := drives
  obtain ⟨entry, present, -, payload⟩ := exists_edge (next ▸ List.mem_singleton_self tick)
  obtain rfl := only entry present payload
  have split := distinct.agenda_cancel present
  rw [payload] at split
  have edges : (edgeTicks queue.agenda).Perm
      (entry.tick :: edgeTicks (queue.cancel entry.id).agenda) := split.filterMap _
  simp only [RepeatingEvent.halt, pending, Option.elim_some]
  refine ⟨?_, split.filterMap _⟩
  rw [next] at edges
  exact (List.cons.inj (List.singleton_perm.1 edges)).2.symm

theorem checkEnds_schedule {scheduled gone agenda agenda' : List (Nat × SecureEvent)}
    {event : Nat × SecureEvent}
    (checks : (checkEnds scheduled).Perm (checkEnds (gone ++ agenda)))
    (added : agenda'.Perm (event :: agenda)) :
    (checkEnds (scheduled ++ [event])).Perm (checkEnds (gone ++ agenda')) := by
  have others : (gone ++ agenda ++ [event]).Perm (gone ++ agenda') := by
    rw [List.append_assoc]
    exact ((List.perm_append_singleton event agenda).trans added.symm).append_left gone
  rw [checkEnds_append]
  refine (checks.append_right _).trans ?_
  rw [← checkEnds_append]
  exact others.filterMap _

end

/-- What can happen to a module while it is watched. -/
inductive WatchOp (ρ μ : Type) where
  | start
  | stop
  | request (packet : Packet)
  | response (packet : Packet)
  /-- Memory can take requests again. -/
  | requestRetry
  /-- The requester can take responses again. -/
  | responseRetry
  /-- The next event is taken from the queue, unless another one still waits to be processed. -/
  | take
  /-- The event that was taken is processed. -/
  | process
  /-- Time passes, as far as no event is due before or waits to be processed. -/
  | wait (tick : Nat)
  /-- The peers change of themselves. -/
  | change (requester : ρ) (memory : μ)

/-- A module that is watched: what it has scheduled and what it has processed. -/
structure Watch (ρ μ : Type) where
  rig : Rig SecureModule ρ μ SecureEvent
  /-- The event that was taken from the queue and waits to be processed. -/
  hand : Option SecureEvent
  /-- When the module was first started. -/
  startedAt : Option Nat
  /-- The module was stopped. -/
  stopped : Bool
  /-- Events that were scheduled, each with its tick and whether the module was stopped by then,
  oldest first. -/
  scheduled : List (Bool × Nat × SecureEvent)
  /-- Events that were processed, each with the tick of that, oldest first. -/
  processed : List (Nat × SecureEvent)

namespace Watch

variable {ρ μ : Type}

def opening (module : SecureModule) (requester : ρ) (memory : μ) : Watch ρ μ :=
  { rig := .assemble module requester memory, hand := none, startedAt := none, stopped := false
    scheduled := [], processed := [] }

/-- The module has changed, and may have scheduled events. -/
def note (watch : Watch ρ μ) (next : Rig SecureModule ρ μ SecureEvent) : Watch ρ μ :=
  { watch with
    rig := next
    scheduled := watch.scheduled ++
      (watch.rig.events.newcomers next.events).map fun event => (watch.stopped, event) }

variable [ResponseSink ρ] [RequestSink μ]

def perform (watch : Watch ρ μ) : WatchOp ρ μ → Except Fault (Watch ρ μ)
  | .start => do
    let next ← Intermediary.start watch.rig
    return { watch.note next with startedAt := watch.startedAt.or (some watch.rig.now) }
  | .stop => .ok { watch.note (Intermediary.windDown watch.rig) with stopped := true }
  | .request packet => do
    let (_, next) ← Intermediary.request packet watch.rig
    return watch.note next
  | .response packet => do
    let (_, next) ← Intermediary.response packet watch.rig
    return watch.note next
  | .requestRetry => .ok (watch.note (Intermediary.requestRetry watch.rig))
  | .responseRetry => .ok (watch.note (Intermediary.responseRetry watch.rig))
  | .take =>
    match watch.hand, watch.rig.events.takeNext with
    | none, some (_, event, events) =>
      .ok { watch with rig := { watch.rig with events }, hand := some event }
    | _, _ => .ok watch
  | .process =>
    match watch.hand with
    | none => .ok watch
    | some event => do
      let (_, next) ← Intermediary.handle event watch.rig
      return { watch.note next with
        hand := none, processed := watch.processed ++ [(watch.rig.now, event)] }
  | .wait tick =>
    if watch.hand = none ∧ ∀ entry ∈ watch.rig.events.pending, tick ≤ entry.tick then
      .ok { watch with rig := { watch.rig with events := watch.rig.events.moveTo tick } }
    else .ok watch
  | .change requester memory =>
    .ok { watch with rig := { watch.rig with requester, memory } }

/-- Events are taken and processed, so many times. -/
def drain (count : Nat) (watch : Watch ρ μ) : Except Fault (Watch ρ μ) :=
  (List.replicate count [WatchOp.take, WatchOp.process]).flatten.foldlM perform watch

omit [ResponseSink ρ] [RequestSink μ]

/-- The edge that lies so many periods after the first one after a start. -/
def gridTick (period start count : Nat) : Nat :=
  Clock.edge start 1 period + count * period

theorem edge_gridTick {period : Nat} (positive : 0 < period) (start count : Nat) :
    Clock.edge (gridTick period start count) 1 period = gridTick period start (count + 1) := by
  have grid : period ∣ gridTick period start count :=
    Nat.dvd_add (Clock.dvd_edge start 1 period) (Nat.dvd_mul_left period count)
  rw [Clock.edge_of_dvd positive grid, gridTick, gridTick, Nat.one_mul, Nat.add_assoc,
    ← Nat.succ_mul]

/-- Where the driver stands once it has worked at so many edges: it has not been started, it waits
for the next edge, that edge was taken from the queue, or the driver was stopped. -/
inductive Phase (period count : Nat) (driver : RepeatingEvent) (events : EventQueue SecureEvent)
    (hand : Option SecureEvent) (startedAt : Option Nat) (stopped : Bool) : Prop where
  | fresh (going : stopped = false) (unstarted : startedAt = none)
    (free : driver.pending = none) (none_due : edgeTicks events.agenda = [])
    (other : hand ≠ some .edge)
  | waiting {start : Nat} (going : stopped = false) (started : startedAt = some start)
    (drives : driver.Drives events .edge)
    (next : edgeTicks events.agenda = [gridTick period start count])
    (other : hand ≠ some .edge)
  | taken {start id : Nat} (going : stopped = false) (started : startedAt = some start)
    (pending : driver.pending = some id)
    (gone : ∀ entry ∈ events.pending, entry.id ≠ id) (old : id < events.nextId)
    (none_due : edgeTicks events.agenda = []) (edge : hand = some .edge)
    (time : events.now = gridTick period start count)
  | ended (halted : stopped = true) (free : driver.pending = none)
    (none_due : edgeTicks events.agenda = [])
    (time : hand = some .edge →
      ∃ start, startedAt = some start ∧ events.now = gridTick period start count)

/-- What holds of every module that is watched, once its driver has worked at so many edges. -/
structure Keeps (period count : Nat) (watch : Watch ρ μ) : Prop where
  period_eq : watch.rig.component.config.clockPeriod = period
  sound : watch.rig.events.Sound
  distinct : watch.rig.events.Distinct
  stopped : watch.rig.component.driver.stopped = watch.stopped
  unstarted : watch.startedAt = none → edgeTicks watch.processed = [] ∧ count = 0
  started : ∀ start, watch.startedAt = some start →
    edgeTicks watch.processed = (List.range count).map (gridTick period start)
  last : ∀ event ∈ watch.scheduled, event.1 = true → event.2.2 ≠ .edge
  checks : (checkEnds (watch.scheduled.map Prod.snd)).Perm
    (checkEnds (watch.processed ++ watch.hand.toList.map (watch.rig.now, ·) ++
      watch.rig.events.agenda))
  phase : Phase period count watch.rig.component.driver watch.rig.events watch.hand
    watch.startedAt watch.stopped

theorem Phase.enter {period count : Nat} {driver : RepeatingEvent} {events : EventQueue SecureEvent}
    {hand : Option SecureEvent} {startedAt : Option Nat} {stopped : Bool}
    (phase : Phase period count driver events hand startedAt stopped) {tick : Nat}
    {priority : Int} {slot : SlotId} :
    Phase period count driver (events.scheduled tick priority (.checkOver slot)) hand startedAt
      stopped := by
  cases phase with
  | fresh going unstarted free none_due other =>
    exact .fresh going unstarted free (edgeTicks_scheduled_check.trans none_due) other
  | waiting going started drives next other =>
    have apart : SecureEvent.checkOver slot ≠ .edge := nofun
    exact .waiting going started (drives.schedule apart _ _)
      (edgeTicks_scheduled_check.trans next) other
  | taken going started pending gone old none_due edge time =>
    refine .taken going started pending (fun entry member => ?_) (Nat.lt_succ_of_lt old)
      (edgeTicks_scheduled_check.trans none_due) edge time
    rcases EventQueue.mem_scheduled.1 member with rfl | present
    · exact Nat.ne_of_gt old
    · exact gone entry present
  | ended halted free none_due time =>
    exact .ended halted free (edgeTicks_scheduled_check.trans none_due) time

section

variable {period count : Nat} {driver : RepeatingEvent} {events : EventQueue SecureEvent}
  {hand : Option SecureEvent} {startedAt : Option Nat} {stopped : Bool}
  (phase : Phase period count driver events hand startedAt stopped)
include phase

theorem Phase.of_stopped (halted : stopped = true) :
    driver.pending = none ∧ edgeTicks events.agenda = [] ∧ (hand = some .edge →
      ∃ start, startedAt = some start ∧ events.now = gridTick period start count) := by
  cases phase with
  | fresh going | waiting going | taken going => cases going.symm.trans halted
  | ended _ free none_due time => exact ⟨free, none_due, time⟩

/-- The driver can be started, or a start does nothing. -/
theorem Phase.fresh_or_busy (same : driver.stopped = stopped) :
    (driver.canSchedule = true ∧ stopped = false ∧ startedAt = none ∧
        edgeTicks events.agenda = [] ∧ hand ≠ some .edge) ∨
      driver.canSchedule = false ∧ (startedAt = none → stopped = true) := by
  cases phase with
  | fresh going unstarted free none_due other =>
    refine .inl ⟨?_, going, unstarted, none_due, other⟩
    rw [RepeatingEvent.canSchedule, same, going, free]
    rfl
  | waiting going started drives =>
    obtain ⟨id, pending, -⟩ := drives
    refine .inr ⟨?_, fun unstarted => by cases unstarted.symm.trans started⟩
    rw [RepeatingEvent.canSchedule, pending, Option.isNone_some, Bool.and_false]
  | taken going started pending =>
    refine .inr ⟨?_, fun unstarted => by cases unstarted.symm.trans started⟩
    rw [RepeatingEvent.canSchedule, pending, Option.isNone_some, Bool.and_false]
  | ended halted =>
    refine .inr ⟨?_, fun _ => halted⟩
    rw [RepeatingEvent.canSchedule, same, halted]
    rfl

end

theorem Phase.arm {period start count tick : Nat} {driver : RepeatingEvent}
    {events : EventQueue SecureEvent} {hand : Option SecureEvent}
    (none_due : edgeTicks events.agenda = []) (other : hand ≠ some .edge)
    (on_grid : tick = gridTick period start count) (priority : Int) :
    Phase period count (driver.awaiting events) (events.scheduled tick priority .edge) hand
      (some start) false :=
  .waiting rfl rfl
    (RepeatingEvent.awaiting_drives (fun _ member => ne_edge_of_edgeTicks none_due member) priority)
    (on_grid ▸ edgeTicks_scheduled_edge none_due) other

theorem Phase.take {period count : Nat} {driver : RepeatingEvent} {events : EventQueue SecureEvent}
    {startedAt : Option Nat} {stopped : Bool} {entry : EventEntry SecureEvent}
    {rest : List (EventEntry SecureEvent)} (sound : events.Sound) (distinct : events.Distinct)
    (pending : events.pending = entry :: rest)
    (phase : Phase period count driver events none startedAt stopped) :
    Phase period count driver (events.after entry rest) (some entry.payload) startedAt stopped := by
  have agenda := EventQueue.agenda_eq_cons pending
  cases payload : entry.payload with
  | checkOver slot =>
    have same : edgeTicks events.agenda = edgeTicks (events.after entry rest).agenda := by
      rw [agenda, payload]
      rfl
    have other : some (SecureEvent.checkOver slot) ≠ some .edge := nofun
    cases phase with
    | fresh going unstarted free none_due =>
      exact .fresh going unstarted free (same ▸ none_due) other
    | waiting going started drives next =>
      exact .waiting going started (drives.fire pending) (same ▸ next) other
    | ended halted free none_due =>
      exact .ended halted free (same ▸ none_due) fun edge => absurd edge other
    | taken _ _ _ _ _ _ edge => cases edge
  | edge =>
    have next_edge : edgeTicks events.agenda =
        entry.tick :: edgeTicks (events.after entry rest).agenda := by
      rw [agenda, payload]
      rfl
    cases phase with
    | fresh _ _ _ none_due => cases next_edge.symm.trans none_due
    | ended _ _ none_due => cases next_edge.symm.trans none_due
    | taken _ _ _ _ _ _ edge => cases edge
    | waiting going started drives next =>
      obtain ⟨id, task, only⟩ := drives
      obtain ⟨on_grid, none_due⟩ := List.cons.inj (next_edge.symm.trans next)
      have known : entry.id = id := only entry (pending ▸ List.mem_cons_self) payload
      have old : id < events.nextId := known ▸ sound.numbered entry (pending ▸ List.mem_cons_self)
      have gone : ∀ other ∈ rest, other.id ≠ id :=
        fun other member => known ▸ (distinct.fire pending).2 other member
      exact .taken going started task gone old none_due rfl on_grid

/-- What was taken from the queue was the end of a check, and it was processed. -/
theorem Phase.put {period count : Nat} {driver : RepeatingEvent} {events : EventQueue SecureEvent}
    {startedAt : Option Nat} {stopped : Bool} {slot : SlotId}
    (phase : Phase period count driver events (some (.checkOver slot)) startedAt stopped) :
    Phase period count driver events none startedAt stopped := by
  cases phase with
  | fresh going unstarted free none_due => exact .fresh going unstarted free none_due nofun
  | waiting going started drives next => exact .waiting going started drives next nofun
  | taken _ _ _ _ _ _ edge => cases edge
  | ended halted free none_due => exact .ended halted free none_due nofun

theorem opening_keeps {config : SecureModuleConfig} (requester : ρ) (memory : μ) :
    (opening (SecureModule.fresh config) requester memory).Keeps config.clockPeriod 0 where
  period_eq := rfl
  sound := EventQueue.sound_empty
  distinct := EventQueue.distinct_empty
  stopped := rfl
  unstarted _ := ⟨rfl, rfl⟩
  started := nofun
  last := nofun
  checks := .refl _
  phase := .fresh rfl rfl rfl rfl nofun

namespace Keeps

variable {period count : Nat} {watch : Watch ρ μ} (keeps : watch.Keeps period count)
  {next : Rig SecureModule ρ μ SecureEvent}
include keeps

theorem note_untouched (same : SecureModule.Untouched watch.rig next) :
    watch.note next = { watch with rig := next } := by
  have none_new : watch.rig.events.newcomers next.events = [] :=
    EventQueue.newcomers_of_old (same.events ▸ keeps.sound.numbered)
  rw [note, none_new, List.map_nil, List.append_nil]

theorem untouched (same : SecureModule.Untouched watch.rig next) :
    (watch.note next).Keeps period count := by
  rw [keeps.note_untouched same]
  exact {
    period_eq := same.config ▸ keeps.period_eq
    sound := same.events ▸ keeps.sound
    distinct := same.events ▸ keeps.distinct
    stopped := same.driver ▸ keeps.stopped
    unstarted := keeps.unstarted
    started := keeps.started
    last := keeps.last
    checks := by
      rw [Rig.now, same.events]
      exact keeps.checks
    phase := by
      rw [same.events, same.driver]
      exact keeps.phase }

theorem enter (packet : Packet) {readyAt : Nat} (future : watch.rig.now ≤ readyAt) :
    (watch.note (SecureModule.admitting watch.rig packet readyAt)).Keeps period count := by
  have added : watch.rig.events.newcomers (SecureModule.admitting watch.rig packet readyAt).events =
      [(readyAt, .checkOver watch.rig.component.gate.slots.acquire.1)] :=
    EventQueue.newcomers_scheduled keeps.sound _ _ _
  rw [note, added]
  exact {
    period_eq := keeps.period_eq
    sound := EventQueue.scheduled_sound keeps.sound future
    distinct := keeps.distinct.schedule keeps.sound _ _ _
    stopped := keeps.stopped
    unstarted := keeps.unstarted
    started := keeps.started
    last := fun event member late => by
      rcases List.mem_append.1 member with old | new
      · exact keeps.last event old late
      · rw [List.mem_singleton.1 new]
        exact nofun
    checks := by
      rw [List.map_append]
      exact checkEnds_schedule keeps.checks EventQueue.agenda_scheduled
    phase := keeps.phase.enter }

theorem restart (idle : watch.startedAt = none → watch.stopped = true) :
    Keeps period count
      { watch.note watch.rig with startedAt := watch.startedAt.or (some watch.rig.now) } := by
  rw [keeps.note_untouched ⟨rfl, rfl, rfl⟩]
  cases startedAt : watch.startedAt with
  | some start =>
    change Keeps period count { watch with startedAt := some start }
    rw [← startedAt]
    exact keeps
  | none =>
    obtain ⟨none_done, rfl⟩ := keeps.unstarted startedAt
    have halted := idle startedAt
    refine { keeps with unstarted := nofun, started := fun _ _ => none_done, phase := ?_ }
    obtain ⟨free, none_due, time⟩ := keeps.phase.of_stopped halted
    refine .ended halted free none_due fun edge => ?_
    obtain ⟨start, started, -⟩ := time edge
    cases startedAt.symm.trans started

variable [ResponseSink ρ] [RequestSink μ]

theorem start (positive : 0 < period) :
    Gives Overflow (watch.perform .start) (Keeps period count) := by
  have pos : 0 < watch.rig.component.config.clockPeriod := keeps.period_eq ▸ positive
  rcases keeps.phase.fresh_or_busy keeps.stopped with
    ⟨free, going, unstarted, none_due, other⟩ | ⟨busy, idle⟩
  · have added : watch.rig.events.newcomers (SecureModule.awaitingEdge watch.rig).events =
        [(Clock.edge watch.rig.now 1 watch.rig.component.config.clockPeriod, .edge)] :=
      EventQueue.newcomers_scheduled keeps.sound _ _ _
    have first : Clock.edge watch.rig.now 1 watch.rig.component.config.clockPeriod =
        gridTick period watch.rig.now 0 := by
      rw [gridTick, keeps.period_eq, Nat.zero_mul, Nat.add_zero]
    obtain ⟨none_done, rfl⟩ := keeps.unstarted unstarted
    apply (SecureModule.scheduleEdge_of_free pos free).bind
    rintro _ rfl
    rw [note, added, unstarted, going]
    exact .ok {
      period_eq := keeps.period_eq
      sound := EventQueue.scheduled_sound keeps.sound (Clock.le_edge pos)
      distinct := keeps.distinct.schedule keeps.sound _ _ _
      stopped := keeps.stopped.trans going
      unstarted := nofun
      started := fun _ _ => none_done
      last := fun event member late => by
        rcases List.mem_append.1 member with old | new
        · exact keeps.last event old late
        · rw [List.mem_singleton.1 new] at late
          cases late
      checks := by
        rw [List.map_append]
        exact checkEnds_schedule keeps.checks EventQueue.agenda_scheduled
      phase := Phase.arm none_due other first _ }
  · apply (SecureModule.scheduleEdge_of_busy pos busy).bind
    rintro _ rfl
    exact .ok (keeps.restart idle)

theorem request (positive : 0 < period) (packet : Packet) :
    Gives Overflow (watch.perform (.request packet)) (Keeps period count) := by
  have pos : 0 < watch.rig.component.config.clockPeriod := keeps.period_eq ▸ positive
  apply (SecureModule.request_requests pos packet).bind
  intro result requests
  cases requests with
  | unclassified => exact .ok (keeps.untouched ⟨rfl, rfl, rfl⟩)
  | admitted future => exact .ok (keeps.enter packet future)
  | refused => exact .ok (keeps.untouched ⟨rfl, rfl, rfl⟩)

omit [ResponseSink ρ] [RequestSink μ] in
/-- The driver has stopped, and the queue is left with these events. -/
theorem halt {left : EventQueue SecureEvent} (now : left.now = watch.rig.now)
    (sound : left.Sound) (distinct : left.Distinct)
    (old : ∀ entry ∈ left.pending, entry.id < watch.rig.events.nextId)
    (none_due : edgeTicks left.agenda = [])
    (checks : (checkEnds watch.rig.events.agenda).Perm (checkEnds left.agenda))
    (time : watch.hand = some .edge → ∃ start, watch.startedAt = some start ∧
      watch.rig.now = gridTick period start count) :
    Keeps period count { watch.note { watch.rig with
      component := { watch.rig.component with driver := watch.rig.component.driver.stop }
      events := left } with stopped := true } := by
  have none_new : watch.rig.events.newcomers left = [] := EventQueue.newcomers_of_old old
  rw [note, none_new, List.map_nil, List.append_nil]
  exact {
    period_eq := keeps.period_eq
    sound, distinct
    stopped := rfl
    unstarted := keeps.unstarted
    started := keeps.started
    last := keeps.last
    checks := by
      rw [Rig.now, now]
      exact keeps.checks.trans (checkEnds_congr checks)
    phase := .ended rfl rfl none_due fun edge => by
      rw [now]
      exact time edge }

theorem stop : Gives Overflow (watch.perform .stop) (Keeps period count) := by
  have halted : Intermediary.windDown watch.rig = { watch.rig with
      component := { watch.rig.component with driver := watch.rig.component.driver.stop }
      events := (watch.rig.component.driver.halt watch.rig.events).2 } := rfl
  simp only [perform, halted]
  cases keeps.phase with
  | fresh going unstarted free none_due other =>
    simp only [RepeatingEvent.halt, free, Option.elim_none]
    exact .ok (keeps.halt rfl keeps.sound keeps.distinct keeps.sound.numbered none_due (.refl _)
      fun edge => absurd edge other)
  | waiting going started drives next other =>
    obtain ⟨none_due, checks⟩ := cancel_edge keeps.distinct drives next
    obtain ⟨id, pending, -⟩ := drives
    simp only [RepeatingEvent.halt, pending, Option.elim_some] at none_due checks ⊢
    exact .ok (keeps.halt rfl (EventQueue.cancel_sound keeps.sound id) (keeps.distinct.cancel id)
      (fun entry member => keeps.sound.numbered entry (EventQueue.mem_cancel.1 member).1)
      none_due checks fun edge => absurd edge other)
  | taken going started pending gone old none_due edge time =>
    have same : watch.rig.events.cancel _ = watch.rig.events := EventQueue.cancel_of_gone gone
    simp only [RepeatingEvent.halt, pending, Option.elim_some, same]
    exact .ok (keeps.halt rfl keeps.sound keeps.distinct keeps.sound.numbered none_due (.refl _)
      fun _ => ⟨_, started, time⟩)
  | ended halted free none_due time =>
    simp only [RepeatingEvent.halt, free, Option.elim_none]
    exact .ok (keeps.halt rfl keeps.sound keeps.distinct keeps.sound.numbered none_due (.refl _)
      time)

theorem take : Gives Overflow (watch.perform .take) (Keeps period count) := by
  simp only [perform]
  split
  case h_2 => exact .ok keeps
  case h_1 event events empty next =>
    obtain ⟨entry, rest, pending, fired⟩ := EventQueue.takeNext_eq_some_iff.1 next
    cases fired
    refine .ok { keeps with
      sound := EventQueue.after_sound keeps.sound pending
      distinct := (keeps.distinct.fire pending).1
      checks := ?_
      phase := Phase.take keeps.sound keeps.distinct pending (empty ▸ keeps.phase) }
    have checks := keeps.checks
    rw [empty, Option.toList_none, List.map_nil, List.append_nil,
      EventQueue.agenda_eq_cons pending, List.append_cons] at checks
    exact checks

omit [ResponseSink ρ] [RequestSink μ] in
/-- The grid once another edge was processed at the tick where it lies. -/
theorem started_succ (time : ∃ start, watch.startedAt = some start ∧
      watch.rig.now = gridTick period start count) (start : Nat)
    (started : watch.startedAt = some start) :
    edgeTicks (watch.processed ++ [(watch.rig.now, .edge)]) =
      (List.range (count + 1)).map (gridTick period start) := by
  obtain ⟨start', started', now⟩ := time
  obtain rfl := Option.some.inj (started.symm.trans started')
  have before := keeps.started start started
  rw [List.range_succ, List.map_append, ← before, edgeTicks, List.filterMap_append, now]
  rfl

theorem process_check {slot : SlotId} (hand : watch.hand = some (.checkOver slot)) :
    Gives Overflow (watch.perform .process) (Keeps period count) := by
  let next : Rig SecureModule ρ μ SecureEvent := { watch.rig with component :=
    { watch.rig.component with gate := (watch.rig.component.gate.finishWait slot).2 } }
  have handled : Intermediary.handle (.checkOver slot) watch.rig = .ok (none, next) := rfl
  have noted : watch.note next = { watch with rig := next } := keeps.note_untouched ⟨rfl, rfl, rfl⟩
  have same : edgeTicks (watch.processed ++ [(watch.rig.now, .checkOver slot)]) =
      edgeTicks watch.processed := by
    rw [edgeTicks, List.filterMap_append]
    exact List.append_nil _
  have checks := keeps.checks
  rw [hand] at checks
  simp only [perform, hand, handled, ok_bind, noted]
  exact .ok { keeps with
    unstarted := fun unstarted => same ▸ keeps.unstarted unstarted
    started := fun start started => same ▸ keeps.started start started
    checks := by
      rw [Option.toList_none, List.map_nil, List.append_nil]
      exact checks
    phase := Phase.put (hand ▸ keeps.phase) }

omit [ResponseSink ρ] [RequestSink μ] in
theorem worked {next : Rig SecureModule ρ μ SecureEvent}
    (time : ∃ start, watch.startedAt = some start ∧ watch.rig.now = gridTick period start count)
    (config : next.component.config = watch.rig.component.config)
    (driver : next.component.driver.stopped = watch.stopped)
    (sound : next.events.Sound) (distinct : next.events.Distinct)
    (last : ∀ event ∈ watch.rig.events.newcomers next.events,
      watch.stopped = true → event.2 ≠ .edge)
    (checks : (checkEnds (watch.scheduled.map Prod.snd ++
      watch.rig.events.newcomers next.events)).Perm
        (checkEnds (watch.processed ++ [(watch.rig.now, .edge)] ++ next.events.agenda)))
    (phase : Phase period (count + 1) next.component.driver next.events none watch.startedAt
      watch.stopped) :
    Keeps period (count + 1) { watch.note next with
      hand := none, processed := watch.processed ++ [(watch.rig.now, .edge)] } where
  period_eq := config ▸ keeps.period_eq
  sound := sound
  distinct := distinct
  stopped := driver
  unstarted unstarted := by
    obtain ⟨start, started, -⟩ := time
    cases unstarted.symm.trans started
  started := keeps.started_succ time
  last event member late := by
    rcases List.mem_append.1 member with old | new
    · exact keeps.last event old late
    · obtain ⟨event, added, rfl⟩ := List.mem_map.1 new
      exact last event added late
  checks := by
    have plain : (watch.note next).scheduled.map Prod.snd =
        watch.scheduled.map Prod.snd ++ watch.rig.events.newcomers next.events := by
      rw [note, List.map_append, List.map_map]
      exact congrArg _ (List.map_id _)
    rw [Option.toList_none, List.map_nil, List.append_nil, plain]
    exact checks
  phase := phase

theorem process_edge (positive : 0 < period) (hand : watch.hand = some .edge) :
    Gives Overflow (watch.perform .process) (Keeps period (count + 1)) := by
  have config := SecureModule.edgeWork_config watch.rig
  have events := SecureModule.edgeWork_events watch.rig
  have driver := SecureModule.edgeWork_driver watch.rig
  have pos : 0 < watch.rig.component.config.clockPeriod := keeps.period_eq ▸ positive
  have checks := keeps.checks
  rw [hand] at checks
  cases keeps.phase with
  | fresh _ _ _ _ other => exact absurd hand other
  | waiting _ _ _ _ other => exact absurd hand other
  | @taken start id going started pending gone old none_due edge time =>
    have handled := SecureModule.handle_edge_of_going pos (keeps.stopped.trans going)
    have queue : (SecureModule.awaitingEdge (SecureModule.edgeWork watch.rig)).events =
        watch.rig.events.scheduled (gridTick period start (count + 1))
          (SecureModule.edgeWork watch.rig).component.driver.priority .edge := by
      simp only [SecureModule.awaitingEdge, Rig.now, events, config, keeps.period_eq]
      rw [← edge_gridTick positive, ← time]
      rfl
    have future : watch.rig.events.now ≤ gridTick period start (count + 1) := by
      rw [time, gridTick, gridTick]
      exact Nat.add_le_add_left (Nat.mul_le_mul_right period (Nat.le_succ count)) _
    have added := EventQueue.newcomers_scheduled keeps.sound (gridTick period start (count + 1))
      (SecureModule.edgeWork watch.rig).component.driver.priority .edge
    simp only [perform, hand]
    apply handled.bind
    rintro _ rfl
    refine .ok (keeps.worked ⟨start, started, time⟩ config ?_ ?_ ?_ ?_ ?_ ?_)
    · exact (congrArg RepeatingEvent.stopped driver).trans keeps.stopped
    · rw [queue]
      exact EventQueue.scheduled_sound keeps.sound future
    · rw [queue]
      exact keeps.distinct.schedule keeps.sound _ _ _
    · intro _ _ halted
      cases going.symm.trans halted
    · rw [queue, added]
      exact checkEnds_schedule checks EventQueue.agenda_scheduled
    · have awaits : (SecureModule.awaitingEdge (SecureModule.edgeWork watch.rig)).component.driver =
          (SecureModule.edgeWork watch.rig).component.driver.awaiting watch.rig.events :=
        congrArg (SecureModule.edgeWork watch.rig).component.driver.awaiting events
      have empty : (none : Option SecureEvent) ≠ some .edge := nofun
      rw [awaits, queue, started, going]
      exact Phase.arm none_due empty rfl _
  | ended halted free none_due time =>
    have handled := SecureModule.handle_edge_of_stopped pos (keeps.stopped.trans halted)
    simp only [perform, hand]
    apply handled.bind
    rintro _ rfl
    have none_new : watch.rig.events.newcomers (SecureModule.edgeWork watch.rig).events = [] :=
      EventQueue.newcomers_of_old (events ▸ keeps.sound.numbered)
    refine .ok (keeps.worked (time hand) config ?_ (events ▸ keeps.sound)
      (events ▸ keeps.distinct) (none_new ▸ nofun) ?_ ?_)
    · rw [driver]
      exact keeps.stopped
    · rw [none_new, List.append_nil, events]
      exact checks
    · rw [driver, events]
      exact .ended halted rfl none_due nofun

theorem wait (tick : Nat) : Gives Overflow (watch.perform (.wait tick)) (Keeps period count) := by
  simp only [perform]
  split
  case isFalse => exact .ok keeps
  case isTrue idle =>
    obtain ⟨empty, later⟩ := idle
    refine .ok { keeps with
      sound := EventQueue.moveTo_sound keeps.sound later
      checks := ?_
      phase := ?_ }
    · have checks := keeps.checks
      rw [empty] at checks ⊢
      exact checks
    · cases keeps.phase with
      | fresh going unstarted free none_due other =>
        exact .fresh going unstarted free none_due other
      | waiting going started drives next other => exact .waiting going started drives next other
      | taken going started pending gone old none_due edge => cases empty.symm.trans edge
      | ended halted free none_due =>
        exact .ended halted free none_due fun edge => by cases empty.symm.trans edge

/-- Whatever happens, the driver keeps its place on the grid. -/
theorem perform (positive : 0 < period) (op : WatchOp ρ μ) :
    Gives Overflow (watch.perform op) fun next => ∃ count, Keeps period count next := by
  have same : ∀ next : Watch ρ μ, Keeps period count next → ∃ count, Keeps period count next :=
    fun _ kept => ⟨count, kept⟩
  cases op with
  | start => exact (keeps.start positive).mono same
  | stop => exact keeps.stop.mono same
  | request packet => exact (keeps.request positive packet).mono same
  | response packet => exact .ok ⟨count, keeps.untouched (SecureModule.response_untouched packet _)⟩
  | requestRetry => exact .ok ⟨count, keeps.untouched (SecureModule.requestRetry_untouched _)⟩
  | responseRetry => exact .ok ⟨count, keeps.untouched (SecureModule.responseRetry_untouched _)⟩
  | take => exact keeps.take.mono same
  | process =>
    cases hand : watch.hand with
    | none =>
      simp only [Watch.perform, hand]
      exact .ok ⟨count, keeps⟩
    | some event =>
      cases event with
      | checkOver slot => exact (keeps.process_check hand).mono same
      | edge => exact (keeps.process_edge positive hand).mono fun _ kept => ⟨count + 1, kept⟩
  | wait tick => exact (keeps.wait tick).mono same
  | change requester memory => exact .ok ⟨count, { keeps with }⟩

end Keeps

/-- The driver has one occurrence to come as long as it runs, and works at all edges of the grid up
to now, at each once; a stop is final, and no check is lost. -/
structure WellDriven (period : Nat) (watch : Watch ρ μ) : Prop where
  one : (edgeTicks watch.rig.events.agenda).length ≤ 1
  active : watch.hand = none → ((edgeTicks watch.rig.events.agenda).length = 1 ↔
    watch.rig.component.driver.isActive = true)
  unstarted : watch.startedAt = none → edgeTicks watch.processed = []
  on_grid : ∀ start, watch.startedAt = some start → ∃ count,
    edgeTicks watch.processed = (List.range count).map (gridTick period start) ∧
      (watch.stopped = false → ∀ other, gridTick period start other < watch.rig.now → other < count)
  stopped : watch.stopped = true → edgeTicks watch.rig.events.agenda = []
  last : ∀ event ∈ watch.scheduled, event.1 = true → event.2.2 ≠ .edge
  checks : (checkEnds (watch.scheduled.map Prod.snd)).Perm
    (checkEnds (watch.processed ++ watch.hand.toList.map (watch.rig.now, ·) ++
      watch.rig.events.agenda))

section

variable {period count : Nat} {watch : Watch ρ μ}

theorem lt_of_gridTick_lt {start other : Nat} (early : gridTick period start other < watch.rig.now)
    (late : watch.rig.now ≤ gridTick period start count) : other < count := by
  by_contra past
  have order : gridTick period start count ≤ gridTick period start other :=
    Nat.add_le_add_left (Nat.mul_le_mul_right period (Nat.not_lt.1 past)) _
  omega

/-- As long as the driver is not stopped, its next edge is not past. -/
theorem Keeps.now_le (keeps : watch.Keeps period count) {start : Nat}
    (started : watch.startedAt = some start) (going : watch.stopped = false) :
    watch.rig.now ≤ gridTick period start count := by
  cases keeps.phase with
  | fresh _ unstarted => cases unstarted.symm.trans started
  | ended halted => cases going.symm.trans halted
  | taken _ started' _ _ _ _ _ time =>
    obtain rfl := Option.some.inj (started.symm.trans started')
    exact Nat.le_of_eq time
  | @waiting start' _ started' _ next _ =>
    obtain rfl := Option.some.inj (started.symm.trans started')
    have coming : gridTick period start count ∈ edgeTicks watch.rig.events.agenda :=
      next ▸ List.mem_singleton_self _
    obtain ⟨entry, member, tick, -⟩ := exists_edge coming
    exact tick ▸ keeps.sound.future entry member

theorem Keeps.wellDriven (keeps : watch.Keeps period count) : watch.WellDriven period where
  one := by
    cases keeps.phase with
    | fresh _ _ _ none_due => exact none_due ▸ Nat.zero_le _
    | waiting _ _ _ next => exact next ▸ Nat.le_refl _
    | taken _ _ _ _ _ none_due => exact none_due ▸ Nat.zero_le _
    | ended _ _ none_due => exact none_due ▸ Nat.zero_le _
  active empty := by
    rw [RepeatingEvent.isActive, keeps.stopped]
    cases keeps.phase with
    | fresh _ _ free none_due => simp [none_due, free]
    | waiting going _ drives next =>
      obtain ⟨id, pending, -⟩ := drives
      simp [next, pending, going]
    | taken _ _ _ _ _ _ edge => cases empty.symm.trans edge
    | ended _ free none_due => simp [none_due, free]
  unstarted unstarted := (keeps.unstarted unstarted).1
  on_grid start started :=
    ⟨count, keeps.started start started, fun going _ early =>
      lt_of_gridTick_lt early (keeps.now_le started going)⟩
  stopped halted := (keeps.phase.of_stopped halted).2.1
  last := keeps.last
  checks := keeps.checks

def left (watch : Watch ρ μ) : Nat :=
  watch.rig.events.size + watch.hand.toList.length

theorem left_eq_zero_iff :
    watch.left = 0 ↔ watch.rig.events.pending = [] ∧ watch.hand = none := by
  rw [left, Nat.add_eq_zero_iff, EventQueue.size, List.length_eq_zero_iff, List.length_eq_zero_iff,
    Option.toList_eq_nil_iff]

variable [ResponseSink ρ] [RequestSink μ]

/-- What taking an event from the queue leaves as it was. -/
theorem take_frame (watch : Watch ρ μ) : Gives Overflow (watch.perform .take) fun next =>
    next.stopped = watch.stopped ∧ next.scheduled = watch.scheduled ∧
      next.left = watch.left ∧ (next.hand = none → next.left = 0) := by
  simp only [perform]
  split
  case h_1 event events empty next =>
    obtain ⟨entry, rest, pending, fired⟩ := EventQueue.takeNext_eq_some_iff.1 next
    cases fired
    refine .ok ⟨rfl, rfl, ?_, nofun⟩
    rw [left, left, empty, ← EventQueue.size_after pending]
    rfl
  case h_2 nothing =>
    refine .ok ⟨rfl, rfl, rfl, fun empty => ?_⟩
    cases pending : watch.rig.events.pending with
    | nil => rw [left, EventQueue.size, pending, empty]; rfl
    | cons entry rest =>
      have next := EventQueue.takeNext_eq_some_iff.2 ⟨entry, rest, pending, rfl⟩
      exact absurd next (nothing _ _ _ empty)

/-- Once the driver was stopped, processing an event leaves one less. -/
theorem Keeps.process_frame (keeps : watch.Keeps period count) (positive : 0 < period)
    (halted : watch.stopped = true) : Gives Overflow (watch.perform .process) fun next =>
      next.stopped = true ∧ next.scheduled = watch.scheduled ∧
        next.left = watch.rig.events.size := by
  simp only [Watch.perform]
  split
  case h_1 empty => exact .ok ⟨halted, rfl, by rw [left, empty]; rfl⟩
  case h_2 event hand =>
    apply (SecureModule.handle_of_stopped (keeps.period_eq ▸ positive)
      (keeps.stopped.trans halted) event).bind
    rintro ⟨failure, next⟩ same
    have none_new : watch.rig.events.newcomers next.events = [] :=
      EventQueue.newcomers_of_old (same ▸ keeps.sound.numbered)
    refine .ok ⟨halted, ?_, congrArg EventQueue.size same⟩
    rw [note, none_new, List.map_nil, List.append_nil]

theorem Keeps.drain (keeps : watch.Keeps period count) (positive : 0 < period)
    (halted : watch.stopped = true) {turns : Nat} (enough : watch.left ≤ turns) :
    Gives Overflow (watch.drain turns) fun final => (∃ count, Keeps period count final) ∧
      final.scheduled = watch.scheduled ∧ final.left = 0 := by
  induction turns generalizing watch count with
  | zero => exact .ok ⟨⟨count, keeps⟩, rfl, Nat.le_zero.1 enough⟩
  | succ turns ih =>
    rw [Watch.drain, List.replicate_succ, List.flatten_cons, List.foldlM_append, List.foldlM_cons,
      bind_assoc]
    apply ((keeps.perform positive .take).and watch.take_frame).bind
    rintro taken ⟨⟨_, kept⟩, stopped, scheduled, same, none_left⟩
    have going := stopped.trans halted
    rw [List.foldlM_cons, bind_assoc]
    apply ((kept.perform positive .process).and (kept.process_frame positive going)).bind
    rintro next ⟨⟨_, kept⟩, halted, scheduled', less⟩
    have fewer : next.left ≤ turns := by
      cases hand : taken.hand with
      | none =>
        have none_pending := none_left hand
        rw [left, hand] at none_pending
        omega
      | some event =>
        rw [left, hand, Option.toList_some, List.length_singleton] at same
        omega
    apply (ih kept halted fewer).mono
    rintro final ⟨keeps, same, done⟩
    exact ⟨keeps, same.trans (scheduled'.trans scheduled), done⟩

end

/-- Whatever is called on a module, and whatever happens between taking an event from the queue and
processing it, the driver is driven well. Once it was stopped the events run out, and then every
check that was scheduled has ended, at its tick. -/
theorem driver_on_grid [ResponseSink ρ] [RequestSink μ] (config : SecureModuleConfig)
    (valid : config.validate = .ok ()) (requester : ρ) (memory : μ) (ops : List (WatchOp ρ μ)) :
    ∃ module, SecureModule.build config = .ok module ∧
      Gives Overflow (ops.foldlM perform (opening module requester memory)) fun watch =>
        watch.WellDriven config.clockPeriod ∧
          (watch.stopped = true → ∀ turns, watch.rig.events.size < turns →
            Gives Overflow (watch.drain turns) fun final =>
              final.rig.events.pending = [] ∧ final.hand = none ∧
                (checkEnds (watch.scheduled.map Prod.snd)).Perm (checkEnds final.processed)) := by
  have positive := (SecureModuleConfig.validate_eq_ok_iff.1 valid).2.2
  refine ⟨_, SecureModule.build_eq_ok valid, ?_⟩
  have run : Gives Overflow (ops.foldlM perform
      (opening (SecureModule.fresh config) requester memory)) fun watch =>
        ∃ count, Keeps config.clockPeriod count watch :=
    Gives.foldlM (fun _ op ⟨_, keeps⟩ => keeps.perform positive op) ops
      ⟨0, opening_keeps requester memory⟩
  apply run.mono
  rintro watch ⟨count, keeps⟩
  refine ⟨keeps.wellDriven, fun halted turns enough => ?_⟩
  have few : watch.left ≤ turns := by
    have one := Option.length_toList_le (o := watch.hand)
    rw [left]
    omega
  apply (keeps.drain positive halted few).mono
  rintro final ⟨⟨_, kept⟩, scheduled, done⟩
  obtain ⟨none_pending, empty⟩ := left_eq_zero_iff.1 done
  have checks := kept.checks
  rw [scheduled, empty, EventQueue.agenda, none_pending, Option.toList_none, List.map_nil,
    List.append_nil, List.map_nil, List.append_nil] at checks
  exact ⟨none_pending, empty, checks⟩

/-- A module that is started twice, and stopped while it is about to work at its second edge. -/
def interrupted : List (WatchOp ScriptedRequester ScriptedMemory) :=
  [.wait 4, .start, .request (.read 0 0 4), .take, .process, .start, .take, .stop, .process, .start]

theorem driver_on_grid_interrupted :
    ({ clockPeriod := 3 } : SecureModuleConfig).validate = .ok () ∧
    ∃ module watch, SecureModule.build { clockPeriod := 3 } = .ok module ∧
      interrupted.foldlM perform (opening module {} {}) = .ok watch ∧ watch.WellDriven 3 ∧
      watch.stopped = true ∧ edgeTicks watch.processed = [9, 12] ∧
      watch.rig.events.agenda = [(18, .checkOver ⟨0, 0⟩)] ∧
      Yields (watch.drain 2) fun final => final.rig.events.pending = [] := by
  obtain ⟨module, built, run⟩ :=
    driver_on_grid { clockPeriod := 3 } rfl ({} : ScriptedRequester) ({} : ScriptedMemory)
      interrupted
  cases built
  obtain ⟨watch, ran, driven, runs_out⟩ := run.yields_of_isOk rfl
  cases ran
  have emptied := (runs_out rfl 2 (by decide)).mono fun _ => And.left
  exact ⟨rfl, _, _, rfl, rfl, driven, rfl, rfl, rfl, emptied.yields_of_isOk rfl⟩

end Watch

end GatedMemory
