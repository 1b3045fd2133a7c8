import GatedMemory.Proofs.Erasure
import GatedMemory.Proofs.EventLoop
import Mathlib.Algebra.Group.Action.Defs
import Mathlib.Algebra.Order.BigOperators.Group.List
import Mathlib.Algebra.Order.Ring.Nat

/-!
A component that schedules little for each thing it does. In its runs every event leaves less to
come within the budget of ticks, so the loop ends before a run stops looking, and a run that stalled
can be taken up again: it goes on as it would have gone on with the larger budget at once.
-/

set_option autoImplicit false

namespace GatedMemory

namespace EventQueue

variable {α ε : Type} {recurs : α → Bool} {limit tick : Nat} {priority : Int} {payload : α}
  {queue next : EventQueue α}

/-- A bound on the events within the limit that come of one event, itself included. An event that
recurs comes once in each tick at most, and leads to two others each time, which lead to none. -/
def weight (recurs : α → Bool) (limit tick : Nat) (payload : α) : Nat :=
  if recurs payload then 3 * (limit + 1 - tick) else min 1 (limit + 1 - tick)

/-- A bound on the events within the limit that come of all that are pending. -/
def load (recurs : α → Bool) (limit : Nat) (queue : EventQueue α) : Nat :=
  (queue.pending.map fun entry => weight recurs limit entry.tick entry.payload).sum

theorem weight_pos (recurs : α → Bool) (payload : α) (due : tick ≤ limit) :
    0 < weight recurs limit tick payload := by
  unfold weight
  split <;> omega

theorem weight_le (recurs : α → Bool) (limit tick : Nat) (payload : α) :
    weight recurs limit tick payload ≤ 3 * (limit + 1 - tick) := by
  unfold weight
  split <;> omega

theorem load_scheduled : (queue.scheduled tick priority payload).load recurs limit =
    weight recurs limit tick payload + queue.load recurs limit := by
  rw [load, scheduled, ((insertEntry_perm _ _).map _).sum_nat, List.map_cons, List.sum_cons, load]

theorem load_after (recurs : α → Bool) (limit : Nat) {entry : EventEntry α}
    {rest : List (EventEntry α)} (pending : queue.pending = entry :: rest) :
    queue.load recurs limit =
      weight recurs limit entry.tick entry.payload +
        (queue.after entry rest).load recurs limit := by
  rw [load, pending, List.map_cons, List.sum_cons]
  rfl

theorem load_cancel_le (id : Nat) : (queue.cancel id).load recurs limit ≤ queue.load recurs limit :=
  (List.filter_sublist.map _).sum_le_sum fun _ _ => Nat.zero_le _

/-- What a run is prepared for is more than what can come. -/
theorem load_lt_horizon (sound : queue.Sound) : queue.load recurs limit < queue.horizon limit := by
  have each : ∀ weight' ∈ queue.pending.map fun entry =>
      weight recurs limit entry.tick entry.payload, weight' ≤ 3 * (limit + 1 - queue.now) := by
    intro weight' member
    obtain ⟨entry, present, rfl⟩ := List.mem_map.1 member
    have future := sound.future entry present
    have bound := weight_le recurs limit entry.tick entry.payload
    omega
  have all := List.sum_le_card_nsmul _ _ each
  rw [List.length_map, smul_eq_mul, Nat.mul_comm] at all
  exact Nat.lt_succ_of_le all

/-- One event was added at most, and such an event is allowed. -/
inductive Adds (allowed : Nat → α → Prop) (queue : EventQueue α) : EventQueue α → Prop where
  | nothing : Adds allowed queue queue
  | event {tick : Nat} {payload : α} (future : queue.now ≤ tick) (able : allowed tick payload)
    (priority : Int) : Adds allowed queue (queue.scheduled tick priority payload)

namespace Adds

variable {allowed : Nat → α → Prop} (adds : queue.Adds allowed next)
include adds

theorem now_eq : next.now = queue.now := by
  cases adds <;> rfl

theorem sound (sound : queue.Sound) : next.Sound := by
  cases adds with
  | nothing => exact sound
  | event future => exact scheduled_sound sound future

theorem distinct (sound : queue.Sound) (distinct : queue.Distinct) : next.Distinct := by
  cases adds with
  | nothing => exact distinct
  | event future able priority => exact distinct.schedule sound _ priority _

theorem load_le {extra : Nat}
    (light : ∀ tick payload, allowed tick payload → weight recurs limit tick payload ≤ extra) :
    next.load recurs limit ≤ queue.load recurs limit + extra := by
  cases adds with
  | nothing => exact Nat.le_add_right _ _
  | @event tick payload future able =>
    have bound := light tick payload able
    rw [load_scheduled]
    omega

end Adds

inductive Drops (queue : EventQueue α) : EventQueue α → Prop where
  | nothing : Drops queue queue
  | event (id : Nat) : Drops queue (queue.cancel id)

namespace Drops

variable (drops : queue.Drops next)
include drops

theorem now_eq : next.now = queue.now := by
  cases drops <;> rfl

theorem sound (sound : queue.Sound) : next.Sound := by
  cases drops with
  | nothing => exact sound
  | event id => exact cancel_sound sound id

theorem distinct (distinct : queue.Distinct) : next.Distinct := by
  cases drops with
  | nothing => exact distinct
  | event id => exact distinct.cancel id

theorem mem {entry : EventEntry α} (member : entry ∈ next.pending) : entry ∈ queue.pending := by
  cases drops with
  | nothing => exact member
  | event id => exact (mem_cancel.1 member).1

theorem load_le : next.load recurs limit ≤ queue.load recurs limit := by
  cases drops with
  | nothing => exact Nat.le_refl _
  | event id => exact load_cancel_le id

end Drops

end EventQueue

namespace SimulationEvent

variable {ε : Type}

/-- The events that recur: those of the component that do, and the ticks of the clock. -/
def recurs (inner : ε → Bool) : SimulationEvent ε → Bool
  | .component event => inner event
  | .clock => true

/-- One of the component's events, of these. -/
def Inner (allowed : Nat → ε → Prop) (tick : Nat) : SimulationEvent ε → Prop
  | .component event => allowed tick event
  | .clock => False

theorem adds {allowed : Nat → ε → Prop} {queue : EventQueue (SimulationEvent ε)} {tick : Nat}
    {event : ε} (future : queue.now ≤ tick) (able : allowed tick event) (priority : Int) :
    queue.Adds (Inner allowed) (queue.scheduled tick priority (.component event)) :=
  .event future able priority

theorem Inner.owns {allowed : Nat → ε → Prop} {queue next : EventQueue (SimulationEvent ε)}
    {clock : RepeatingEvent} (adds : queue.Adds (Inner allowed) next)
    (owns : clock.Owns queue .clock) : clock.Owns next .clock := by
  cases adds with
  | nothing => exact owns
  | @event tick payload future able priority =>
    refine owns.schedule ?_ tick priority
    rintro rfl
    exact able

end SimulationEvent

def RunError.IsStall : RunError → Prop
  | .stalled _ => True
  | _ => False

/-- As long as the component is able to, it does what it is asked for, and schedules an event at
most. A packet leads to an event that does not recur, and an event that recurs to one at a later
tick; nothing else leads to any. -/
structure Frugal {κ ε : Type} [Intermediary κ ε] (able : κ → Prop) (recurs : ε → Bool) : Prop where
  start {ρ μ : Type} (rig : Rig κ ρ μ (SimulationEvent ε)) (can : able rig.component) :
    Gives Overflow (Intermediary.start rig) fun next => able next.component ∧
      rig.events.Adds (SimulationEvent.Inner fun _ _ => True) next.events
  windDown {ρ μ : Type} (rig : Rig κ ρ μ (SimulationEvent ε)) (can : able rig.component) :
    able (Intermediary.windDown rig).component ∧ rig.events.Drops (Intermediary.windDown rig).events
  handle {ρ μ : Type} [ResponseSink ρ] [RequestSink μ] (rig : Rig κ ρ μ (SimulationEvent ε))
    (can : able rig.component) (event : ε) :
    Gives Overflow (Intermediary.handle event rig) fun result => able result.2.component ∧
      rig.events.Adds (SimulationEvent.Inner fun tick _ => recurs event = true ∧ rig.now < tick)
        result.2.events ∧ ∀ error ∈ result.1, ¬ error.IsStall
  request {ρ μ : Type} [RequestSink μ] (rig : Rig κ ρ μ (SimulationEvent ε))
    (can : able rig.component) (packet : Packet) :
    Gives Overflow (Intermediary.request packet rig) fun result => able result.2.component ∧
      rig.events.Adds (SimulationEvent.Inner fun _ event => recurs event = false)
        result.2.events ∧ ∀ error, result.1 = .error error → ¬ error.IsStall
  response {ρ μ : Type} [ResponseSink ρ] (rig : Rig κ ρ μ (SimulationEvent ε))
    (can : able rig.component) (packet : Packet) :
    Gives Overflow (Intermediary.response packet rig) fun result => able result.2.component ∧
      rig.events.Adds (SimulationEvent.Inner fun _ event => recurs event = false) result.2.events
  requestRetry {ρ μ : Type} [ResponseSink ρ] [RequestSink μ] (rig : Rig κ ρ μ (SimulationEvent ε))
    (can : able rig.component) :
    able (Intermediary.requestRetry rig).component ∧
      (Intermediary.requestRetry rig).events = rig.events

/-- Nothing takes the property from a requester, and asking one that has it for a request can meet
these faults only; an overflow is one of them. -/
structure TrafficSource.Closed {ρ : Type} [TrafficSource ρ] (faults : Fault → Prop)
    (holds : ρ → Prop) : Prop extends ResponseSink.Closed holds where
  overflows : ∀ fault, Overflow fault → faults fault
  next : ∀ now requester, holds requester →
    Gives faults (TrafficSource.next now requester) fun result => holds result.2
  accepted : ∀ requester, holds requester → holds (TrafficSource.accepted requester)
  rejected : ∀ packet requester, holds requester → holds (TrafficSource.rejected packet requester)

namespace Simulation

section

variable {κ ε ρ μ : Type} {able : κ → Prop} {recurs : ε → Bool} {faults : Fault → Prop}
  {holds : ρ → Prop} {clock : RepeatingEvent} {limit budget now : Nat}

/-- What holds of a rig at any time of a run. -/
structure Sane (able : κ → Prop) (holds : ρ → Prop) (clock : RepeatingEvent)
    (rig : Rig κ ρ μ (SimulationEvent ε)) : Prop where
  able : able rig.component
  sound : rig.events.Sound
  distinct : rig.events.Distinct
  peer : holds rig.requester
  owns : clock.Owns rig.events .clock

/-- What holds of a rig at a tick, with a bound on the events to come. -/
structure Spending (able : κ → Prop) (recurs : ε → Bool) (holds : ρ → Prop)
    (clock : RepeatingEvent) (limit budget now : Nat) (rig : Rig κ ρ μ (SimulationEvent ε)) : Prop
    extends Sane able holds clock rig where
  now_eq : rig.now = now
  load_le : rig.events.load (SimulationEvent.recurs recurs) limit ≤ budget

variable {rig next : Rig κ ρ μ (SimulationEvent ε)}

theorem Sane.fire (sane : Sane able holds clock rig) (recurs : ε → Bool) (limit : Nat)
    {entry : EventEntry (SimulationEvent ε)} {rest : List (EventEntry (SimulationEvent ε))}
    (pending : rig.events.pending = entry :: rest) :
    Spending able recurs holds clock limit
      ((rig.events.after entry rest).load (SimulationEvent.recurs recurs) limit) entry.tick
      { rig with events := rig.events.after entry rest } where
  able := sane.able
  sound := EventQueue.after_sound sane.sound pending
  distinct := (sane.distinct.fire pending).1
  peer := sane.peer
  owns := sane.owns.fire pending
  now_eq := rfl
  load_le := Nat.le_refl _

/-- The rig after it has done something that adds an event of bounded weight. -/
theorem Spending.add {allowed : Nat → ε → Prop} {extra : Nat}
    (state : Spending able recurs holds clock limit budget now rig) (can : able next.component)
    (has : holds next.requester)
    (adds : rig.events.Adds (SimulationEvent.Inner allowed) next.events)
    (light : ∀ tick event, allowed tick event →
      EventQueue.weight recurs limit tick event ≤ extra) :
    Spending able recurs holds clock limit (budget + extra) now next where
  able := can
  sound := adds.sound state.sound
  distinct := adds.distinct state.sound state.distinct
  peer := has
  owns := SimulationEvent.Inner.owns adds state.owns
  now_eq := adds.now_eq.trans state.now_eq
  load_le := by
    have bound : next.events.load (SimulationEvent.recurs recurs) limit ≤
        rig.events.load (SimulationEvent.recurs recurs) limit + extra := by
      refine adds.load_le fun tick payload inner => ?_
      cases payload with
      | component event => exact light tick event inner
      | clock => exact inner.elim
    have before := state.load_le
    omega

/-- The rig after it has done something that schedules nothing. -/
theorem Spending.unscheduled (state : Spending able recurs holds clock limit budget now rig)
    (can : able next.component) (has : holds next.requester) (same : next.events = rig.events) :
    Spending able recurs holds clock limit budget now next where
  able := can
  sound := same ▸ state.sound
  distinct := same ▸ state.distinct
  peer := has
  owns := same ▸ state.owns
  now_eq := (congrArg EventQueue.now same).trans state.now_eq
  load_le := same ▸ state.load_le

theorem weight_le_one {tick : Nat} {event : ε} (once : recurs event = false) :
    EventQueue.weight recurs limit tick event ≤ 1 := by
  simp only [EventQueue.weight, once, Bool.false_eq_true, ↓reduceIte]
  omega

variable [Intermediary κ ε] [Parametric κ] (frugal : Frugal (κ := κ) able recurs)

include frugal in
theorem serveResponse_spending [TrafficSource ρ] [ResponseSource μ]
    (closed : TrafficSource.Closed faults holds)
    (state : Spending able recurs holds clock limit budget now rig) :
    Gives Overflow (serveResponse rig)
      (Spending able recurs holds clock limit (budget + 1) now) := by
  unfold serveResponse
  split
  case h_1 memory _ =>
    exact .ok { state with load_le := Nat.le_succ_of_le state.load_le }
  case h_2 packet memory _ =>
    apply (frugal.response { rig with memory } state.able packet).and_eq.bind
    rintro ⟨delivery, next⟩ ⟨given, can, adds⟩
    have has := closed.toClosed.response_keeps { rig with memory } state.peer given
    have turn : Spending able recurs holds clock limit (budget + 1) now next :=
      state.add can has adds fun _ _ once => weight_le_one once
    cases delivery with
    | accepted => exact .ok turn
    | rejected packet => exact .ok { turn with }

include frugal in
theorem passRetry_spending [TrafficSource ρ] [ResponseSource μ]
    (closed : TrafficSource.Closed faults holds)
    (state : Spending able recurs holds clock limit budget now rig) :
    Spending able recurs holds clock limit budget now (passRetry rig) := by
  unfold passRetry
  rcases ResponseSource.settleRetry rig.memory with ⟨_ | _, memory⟩
  · exact { state with }
  · obtain ⟨can, same⟩ := frugal.requestRetry { rig with memory } state.able
    have has := closed.toClosed.requestRetry_keeps { rig with memory } state.peer
    exact state.unscheduled can has same

include frugal in
theorem issueRequest_spending [TrafficSource ρ] [ResponseSource μ]
    (closed : TrafficSource.Closed faults holds)
    (state : Spending able recurs holds clock limit budget now rig) :
    Gives faults (issueRequest rig) fun result =>
      Spending able recurs holds clock limit (budget + 1) now result.2 ∧
        ∀ error ∈ result.1, ¬ error.IsStall := by
  unfold issueRequest
  apply (closed.next rig.now rig.requester state.peer).bind
  rintro ⟨offered, requester⟩ has
  cases offered with
  | none => exact ⟨{ state with peer := has, load_le := Nat.le_succ_of_le state.load_le }, nofun⟩
  | some packet =>
    have requested := frugal.request { rig with requester } state.able packet
    apply (requested.weaken closed.overflows).and_eq.bind
    rintro ⟨answer, next⟩ ⟨given, can, adds, failing⟩
    have kept := ResponseSink.Closed.request_keeps { rig with requester } has given
    have turn : Spending able recurs holds clock limit (budget + 1) now next :=
      state.add can kept adds fun _ _ once => weight_le_one once
    rcases answer with error | _ | back
    · refine ⟨turn, fun other same => ?_⟩
      obtain rfl := Option.some.inj same
      exact failing error rfl
    · exact ⟨{ turn with peer := closed.accepted _ turn.peer }, nofun⟩
    · exact ⟨{ turn with peer := closed.rejected back _ turn.peer }, nofun⟩

variable (sim : Simulation κ ρ μ ε)

include frugal in
theorem finishOrContinue_spending [TrafficSource ρ]
    (state : Spending able recurs holds sim.clock limit budget now sim.rig) :
    Gives Overflow sim.finishOrContinue fun final =>
      Spending able recurs holds final.clock limit (budget + 3 * (limit - now)) now final.rig := by
  apply sim.finishOrContinue_ends.mono
  intro final ends
  cases ends with
  | finished =>
    obtain ⟨can, drops⟩ := frugal.windDown sim.rig state.able
    exact {
      able := can
      sound := drops.sound state.sound
      distinct := drops.distinct state.distinct
      peer := ResponseSink.Closed.windDown_keeps sim.rig state.peer
      owns := fun entry member => state.owns entry (drops.mem member)
      now_eq := drops.now_eq.trans state.now_eq
      load_le := Nat.le_trans drops.load_le (Nat.le_add_right_of_le state.load_le) }
  | waits _ free =>
    have before := state.load_le
    have tick : sim.rig.now = now := state.now_eq
    have absent := state.owns.absent (RepeatingEvent.pending_of_canSchedule free)
    refine {
      able := state.able
      sound := EventQueue.scheduled_sound state.sound (Nat.le_succ _)
      distinct := state.distinct.schedule state.sound _ _ _
      peer := state.peer
      owns := RepeatingEvent.awaiting_owns absent _ _
      now_eq := state.now_eq
      load_le := ?_ }
    rw [awaitingTick, EventQueue.load_scheduled]
    have next := EventQueue.weight_le (SimulationEvent.recurs recurs) limit
      (sim.rig.now + 1) .clock
    omega
  | busy => exact { state with load_le := Nat.le_add_right_of_le state.load_le }

variable [TrafficSource ρ] [ResponseSource μ] (closed : TrafficSource.Closed faults holds)
include frugal closed

theorem turns_spending (state : Spending able recurs holds clock limit budget now rig) :
    Gives faults (turns rig) fun result =>
      Spending able recurs holds clock limit (budget + 2) now result.2 ∧
        ∀ error ∈ result.1, ¬ error.IsStall := by
  apply ((serveResponse_spending frugal closed state).weaken closed.overflows).bind
  intro served turn
  exact issueRequest_spending frugal closed (passRetry_spending frugal closed turn)

theorem tick_spending
    (state : Spending able recurs holds sim.clock.occurred limit budget now sim.rig) :
    Gives faults sim.tick fun result =>
      Spending able recurs holds result.2.clock limit (budget + 2 + 3 * (limit - now)) now
          result.2.rig ∧ ∀ error ∈ result.1, ¬ error.IsStall := by
  rw [tick_eq]
  apply (turns_spending frugal closed state).bind
  rintro ⟨failure, issued⟩ ⟨done, fatal⟩
  cases failure with
  | some error => exact ⟨{ done with load_le := Nat.le_add_right_of_le done.load_le }, fatal⟩
  | none =>
    have finish := finishOrContinue_spending frugal
      { sim with rig := issued, clock := sim.clock.occurred } done
    apply (finish.weaken closed.overflows).map
    intro final turn
    exact ⟨turn, nofun⟩

variable {sim}

theorem handle_spending (sane : Sane able holds sim.clock sim.rig)
    {entry : EventEntry (SimulationEvent ε)} {rest : List (EventEntry (SimulationEvent ε))}
    (pending : sim.rig.events.pending = entry :: rest) (within : entry.tick ≤ limit) :
    Gives faults (handle entry.payload
        { sim with rig := { sim.rig with events := sim.rig.events.after entry rest } })
      fun result => Sane able holds result.2.clock result.2.rig ∧
        result.2.rig.events.load (SimulationEvent.recurs recurs) limit <
          sim.rig.events.load (SimulationEvent.recurs recurs) limit ∧
        ∀ error ∈ result.1, ¬ error.IsStall := by
  have split := EventQueue.load_after (SimulationEvent.recurs recurs) limit pending
  have state := sane.fire recurs limit pending
  apply handle_gives_of_le closed.overflows
  cases payload : entry.payload with
  | clock =>
    have weight : EventQueue.weight (SimulationEvent.recurs recurs) limit entry.tick
        entry.payload = 3 * (limit + 1 - entry.tick) := by
      rw [payload]
      rfl
    have none_left := sane.owns.absent_of_fired sane.distinct pending payload
    apply (tick_spending frugal
      { sim with rig := { sim.rig with events := sim.rig.events.after entry rest } } closed
      { state with owns := RepeatingEvent.Owns.of_absent none_left }).mono
    rintro result ⟨turn, fatal⟩
    have less := turn.load_le
    refine ⟨turn.toSane, ?_, fatal⟩
    omega
  | component event =>
    apply ((frugal.handle _ state.able event).weaken closed.overflows).and_eq.bind
    rintro ⟨failure, next⟩ ⟨given, can, adds, fatal⟩
    have has := closed.toClosed.handle_keeps _ state.peer given
    have weight : EventQueue.weight (SimulationEvent.recurs recurs) limit entry.tick
        entry.payload = EventQueue.weight recurs limit entry.tick event := by
      rw [payload]
      rfl
    have some_left := EventQueue.weight_pos recurs event within
    have light : ∀ tick other, recurs event = true ∧ entry.tick < tick →
        EventQueue.weight recurs limit tick other ≤
          EventQueue.weight recurs limit entry.tick event - 1 := by
      rintro tick other ⟨again, later⟩
      have next := EventQueue.weight_le recurs limit tick other
      simp only [EventQueue.weight, again, ↓reduceIte] at next ⊢
      omega
    have turn := state.add can has adds light
    have less : next.events.load (SimulationEvent.recurs recurs) limit ≤ _ := turn.load_le
    refine ⟨turn.toSane, ?_, fatal⟩
    change next.events.load (SimulationEvent.recurs recurs) limit < _
    omega

end

section

variable {κ ε ρ μ : Type} [Intermediary κ ε] [Parametric κ] [TrafficSource ρ] [ResponseSource μ]
  {able : κ → Prop} {recurs : ε → Bool} {faults : Fault → Prop} {holds : ρ → Prop} {limit : Nat}
  (frugal : Frugal (κ := κ) able recurs) (closed : TrafficSource.Closed faults holds)
  {sim : Simulation κ ρ μ ε} (sane : Sane able holds sim.clock sim.rig)
include frugal closed sane

theorem fireDue_gives {outcome : Except Fault (Option RunError × Simulation κ ρ μ ε)}
    (due : sim.fireDue limit = some outcome) :
    0 < sim.rig.events.load (SimulationEvent.recurs recurs) limit ∧
      Gives faults outcome fun result => Sane able holds result.2.clock result.2.rig ∧
        result.2.rig.events.load (SimulationEvent.recurs recurs) limit <
          sim.rig.events.load (SimulationEvent.recurs recurs) limit ∧
        ∀ error ∈ result.1, ¬ error.IsStall := by
  obtain ⟨fired, taken, rfl⟩ := Option.map_eq_some_iff.1 due
  obtain ⟨next, within⟩ := EventQueue.takeDue_eq_some_iff.1 taken
  obtain ⟨entry, rest, pending, rfl⟩ := EventQueue.takeNext_eq_some_iff.1 next
  refine ⟨?_, handle_spending frugal closed sane pending within⟩
  have due : entry.tick ≤ limit := within
  have weight := EventQueue.weight_pos (SimulationEvent.recurs recurs) entry.payload due
  rw [EventQueue.load_after _ _ pending]
  omega

/-- A run that may look at as many events as can come looks at all that are within the limit. -/
theorem advanceWithin_drains {fuel : Nat}
    (enough : sim.rig.events.load (SimulationEvent.recurs recurs) limit ≤ fuel) :
    Drains limit sim (sim.advanceWithin limit fuel) ∧
      Gives faults (sim.advanceWithin limit fuel) fun result =>
        Sane able holds result.2.clock result.2.rig ∧ ∀ error ∈ result.1, ¬ error.IsStall := by
  induction fuel generalizing sim with
  | zero =>
    cases due : sim.fireDue limit with
    | none =>
      rw [advanceWithin_of_none due]
      exact ⟨.idle due, sane, nofun⟩
    | some outcome =>
      -- an event would have been counted
      have some_left := (fireDue_gives frugal closed sane due).1
      omega
  | succ fuel ih =>
    cases due : sim.fireDue limit with
    | none =>
      rw [advanceWithin_of_none due]
      exact ⟨.idle due, sane, nofun⟩
    | some outcome =>
      obtain ⟨-, gives⟩ := fireDue_gives frugal closed sane due
      rw [advanceWithin_of_due due]
      rcases outcome with fault | ⟨_ | error, next⟩
      · exact ⟨.stops due nofun, gives⟩
      · obtain ⟨kept, less, -⟩ := gives
        obtain ⟨drains, ends⟩ := ih kept (Nat.le_of_lt_succ (Nat.lt_of_lt_of_le less enough))
        exact ⟨.fires due drains, ends⟩
      · exact ⟨.stops due nofun, gives.1, gives.2.2⟩

/-- Every run comes to the end of what is due. -/
theorem advance_drains (limit : Nat) : Drains limit sim (sim.advance limit) ∧
    Gives faults (sim.advance limit) fun result =>
      Sane able holds result.2.clock result.2.rig ∧ ∀ error ∈ result.1, ¬ error.IsStall :=
  advanceWithin_drains frugal closed sane (Nat.le_of_lt (EventQueue.load_lt_horizon sane.sound))

/-- A run that is not over can be taken up again, with the larger budget. -/
theorem advance_resumes {first second : Nat} (order : first ≤ second)
    {middle : Simulation κ ρ μ ε} (advanced : sim.advance first = .ok (none, middle)) :
    middle.advance second = sim.advance second := by
  obtain ⟨drains, ends⟩ := advance_drains frugal closed sane first
  rw [advanced] at drains ends
  have others := (advance_drains frugal closed ends.1 second).1
  have whole := (advance_drains frugal closed sane second).1
  exact (drains.resume order others).deterministic whole

/-- A run that is not over can be taken up again, with the larger budget. -/
theorem run_resumes {first second : Nat} (order : first ≤ second)
    {outcome : Except RunError RunSummary} {middle : Simulation κ ρ μ ε}
    (ran : sim.run first = .ok (outcome, middle))
    (open_end : ∀ error, outcome = .error error → error.IsStall) :
    middle.run second = sim.run second := by
  obtain ⟨-, ends⟩ := advance_drains frugal closed sane first
  cases advanced : sim.advance first with
  | error fault =>
    rw [run, advanced] at ran
    cases ran
  | ok result =>
    obtain ⟨failure, reached⟩ := result
    rw [advanced] at ends
    cases failure with
    | some error =>
      simp only [run, advanced, ok_bind] at ran
      cases ran
      exact absurd (open_end error rfl) (ends.2 error rfl)
    | none =>
      simp only [run, advanced, ok_bind] at ran
      cases ran
      simp only [run, advance_resumes frugal closed sane order advanced]

end

section

variable {κ ε ρ μ : Type} [Intermediary κ ε] [Parametric κ] {able : κ → Prop} {recurs : ε → Bool}
  {holds : ρ → Prop}

theorem start_sane (frugal : Frugal (κ := κ) able recurs) {component : κ} (can : able component)
    {requester : ρ} (has : holds requester) (memory : μ) :
    Gives Overflow (start component requester memory)
      fun sim => Sane able holds sim.clock sim.rig := by
  apply start_gives
  apply (frugal.start (.assemble component requester memory) can).and_eq.mono
  rintro rig ⟨started, still, adds⟩
  have zero : rig.now = 0 := adds.now_eq
  have kept : holds rig.requester := ResponseSink.Closed.start_keeps
    (.assemble component requester memory) has started
  have owns : (RepeatingEvent.idle Priority.external).Owns rig.events .clock :=
    SimulationEvent.Inner.owns adds nofun
  have sound := adds.sound EventQueue.sound_empty
  have distinct := adds.distinct EventQueue.sound_empty EventQueue.distinct_empty
  exact ⟨zero, {
    able := still
    distinct := distinct.schedule sound _ _ _
    owns := RepeatingEvent.awaiting_owns (owns.absent rfl) _ _
    sound := EventQueue.scheduled_sound sound (Nat.le_of_eq zero)
    peer := kept }⟩

end

end Simulation

end GatedMemory
