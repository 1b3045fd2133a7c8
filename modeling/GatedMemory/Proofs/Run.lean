import GatedMemory.Proofs.EventQueue
import GatedMemory.Proofs.Outcome
import GatedMemory.Simulation

/-!
Runs of a simulation, event by event. What every event keeps holds after any number of events, and a
measure that every event lowers brings a run to the end of its budget. A run of which the next piece
of work is always done by a deadline is over before that.
-/

set_option autoImplicit false

namespace GatedMemory

namespace Rig

variable {κ ε ρ μ : Type} [Intermediary κ ε] [ResponseSink ρ] [RequestSink μ]

/-- Each event within the limit lowers the measure of the states that the property holds of. -/
def Lowers (limit : Nat) (holds : Nat → Rig κ ρ μ ε → Prop) : Prop :=
  ∀ (measure : Nat) (rig : Rig κ ρ μ ε) (entry : EventEntry ε) (rest : List (EventEntry ε)),
    holds measure rig → rig.events.pending = entry :: rest → entry.tick ≤ limit →
    Gives Overflow
      (Intermediary.handle entry.payload { rig with events := rig.events.after entry rest })
      fun result => result.1 = none ∧ ∃ less < measure, holds less result.2

/-- The events within the limit run out before the fuel does, and then time moves to the limit. -/
theorem Lowers.advanceWithin {limit fuel measure : Nat} {holds : Nat → Rig κ ρ μ ε → Prop}
    (lowers : Lowers limit holds) {rig : Rig κ ρ μ ε} (now : holds measure rig)
    (enough : measure < fuel) : Gives Overflow (advanceWithin limit fuel rig) fun result =>
      result.1.failure = none ∧ ∃ left final, holds left final ∧
        final.events.takeDue limit = none ∧
        result.2 = { final with events := final.events.moveTo limit } := by
  induction fuel generalizing measure rig with
  | zero => cases enough
  | succ fuel ih =>
    unfold Rig.advanceWithin
    cases due : rig.events.takeDue limit with
    | none => exact .ok ⟨rfl, measure, rig, now, due, rfl⟩
    | some fired =>
      obtain ⟨next, within⟩ := EventQueue.takeDue_eq_some_iff.1 due
      obtain ⟨entry, rest, pending, rfl⟩ := EventQueue.takeNext_eq_some_iff.1 next
      refine (lowers measure rig entry rest now pending within).bind ?_
      rintro ⟨failure, rig⟩ ⟨rfl, less, below, kept⟩
      exact (ih kept (by omega)).bind fun result ended => .ok ended

end Rig

theorem SimulationEvent.clock_ne_component {ε : Type} (event : ε) :
    (SimulationEvent.clock : SimulationEvent ε) ≠ .component event :=
  nofun

namespace Simulation

variable {κ ε ρ μ : Type}

/-- The simulation of a rig at tick zero, with the clock about to tick. -/
def begun (rig : Rig κ ρ μ (SimulationEvent ε)) : Simulation κ ρ μ ε :=
  { rig := { rig with events := rig.events.scheduled 0 Priority.external .clock }
    clock := (RepeatingEvent.idle Priority.external).awaiting rig.events
    finishedAt := none }

variable [Intermediary κ ε]

theorem start_eq_begun {component : κ} {requester : ρ} {memory : μ}
    {rig : Rig κ ρ μ (SimulationEvent ε)}
    (ready : Intermediary.start (.assemble component requester memory) = .ok rig)
    (zero : rig.now = 0) : start component requester memory = .ok (begun rig) := by
  have future : rig.events.now ≤ 0 := Nat.le_of_eq zero
  have free : (RepeatingEvent.idle Priority.external).canSchedule = true := rfl
  simp only [start, ready, ok_bind, RepeatingEvent.scheduleNext_of_free free future]
  rfl

/-- What holds as soon as the component has started and the clock is set. -/
theorem start_gives {faults : Fault → Prop} {component : κ} {requester : ρ} {memory : μ}
    {holds : Simulation κ ρ μ ε → Prop}
    (ready : Gives faults (Intermediary.start (.assemble component requester memory))
      fun rig => rig.now = 0 ∧ holds (begun rig)) :
    Gives faults (start component requester memory) holds := by
  apply ready.and_eq.bind
  rintro rig ⟨started, zero, kept⟩
  have begins := start_eq_begun started zero
  simp only [start, started, ok_bind] at begins
  rw [begins]
  exact .ok kept

variable [TrafficSource ρ]

section

variable {sim : Simulation κ ρ μ ε}

theorem finishOrContinue_of_finished
    (finished : TrafficSource.isFinished sim.rig.requester = true) :
    sim.finishOrContinue = .ok
      { sim with rig := Intermediary.windDown sim.rig, finishedAt := some sim.rig.now } := by
  simp only [finishOrContinue, finished, ↓reduceIte]

/-- The simulation once the clock is scheduled for the next tick. -/
def awaitingTick (sim : Simulation κ ρ μ ε) : Simulation κ ρ μ ε :=
  { sim with
    rig := { sim.rig with
      events := sim.rig.events.scheduled (sim.rig.now + 1) sim.clock.priority .clock }
    clock := sim.clock.awaiting sim.rig.events }

theorem finishOrContinue_awaits
    (unfinished : TrafficSource.isFinished sim.rig.requester = false)
    (free : sim.clock.canSchedule = true) :
    Gives (Exceeds (sim.rig.now + 1)) sim.finishOrContinue fun next => next = sim.awaitingTick := by
  have future : sim.rig.events.now ≤ sim.rig.now + 1 := Nat.le_succ _
  simp only [finishOrContinue, unfinished, Bool.false_eq_true, ↓reduceIte]
  apply (toWord_exceeds (sim.rig.now + 1) _).bind
  rintro _ rfl
  simp only [RepeatingEvent.scheduleNext_of_free free future]
  exact .ok rfl

theorem finishOrContinue_of_free
    (unfinished : TrafficSource.isFinished sim.rig.requester = false)
    (free : sim.clock.canSchedule = true) :
    Gives Overflow sim.finishOrContinue fun next => next = sim.awaitingTick :=
  (finishOrContinue_awaits unfinished free).weaken Allows.overflow

theorem finishOrContinue_of_busy
    (unfinished : TrafficSource.isFinished sim.rig.requester = false)
    (busy : sim.clock.canSchedule = false) :
    Gives Overflow sim.finishOrContinue fun next => next = sim := by
  simp only [finishOrContinue, unfinished, Bool.false_eq_true, ↓reduceIte]
  apply (addWords_gives sim.rig.now 1).bind
  rintro _ rfl
  simp only [RepeatingEvent.scheduleNext_of_busy busy]
  exact .ok rfl

inductive EndsTick (sim : Simulation κ ρ μ ε) : Simulation κ ρ μ ε → Prop where
  | finished (finished : TrafficSource.isFinished sim.rig.requester = true) :
    EndsTick sim
      { sim with rig := Intermediary.windDown sim.rig, finishedAt := some sim.rig.now }
  | waits (unfinished : TrafficSource.isFinished sim.rig.requester = false)
    (free : sim.clock.canSchedule = true) : EndsTick sim sim.awaitingTick
  | busy (unfinished : TrafficSource.isFinished sim.rig.requester = false)
    (busy : sim.clock.canSchedule = false) : EndsTick sim sim

theorem finishOrContinue_ends (sim : Simulation κ ρ μ ε) :
    Gives Overflow sim.finishOrContinue sim.EndsTick := by
  cases finished : TrafficSource.isFinished sim.rig.requester with
  | true =>
    rw [finishOrContinue_of_finished finished]
    exact .ok (.finished finished)
  | false =>
    cases free : sim.clock.canSchedule with
    | true =>
      apply (finishOrContinue_of_free finished free).mono
      rintro _ rfl
      exact .waits finished free
    | false =>
      apply (finishOrContinue_of_busy finished free).mono
      rintro _ rfl
      exact .busy finished free

/-- What winding down and waiting keep, the end of a tick keeps. -/
theorem finishOrContinue_keeps (holds : Rig κ ρ μ (SimulationEvent ε) → Prop)
    (ends : holds (Intermediary.windDown sim.rig))
    (waits : ∀ events, holds { sim.rig with events }) :
    Gives Overflow sim.finishOrContinue fun next => holds next.rig := by
  apply sim.finishOrContinue_ends.mono
  rintro next (_ | _ | _)
  · exact ends
  · exact waits _
  · exact waits sim.rig.events

end

variable [ResponseSource μ]

/-- What the clock does to a rig at a tick. -/
def turns (rig : Rig κ ρ μ (SimulationEvent ε)) :
    Except Fault (Option RunError × Rig κ ρ μ (SimulationEvent ε)) :=
  serveResponse rig >>= fun served => issueRequest (passRetry served)

theorem tick_eq (sim : Simulation κ ρ μ ε) : sim.tick = turns sim.rig >>= fun result =>
    match result.1 with
    | some error => .ok (some error, { sim with rig := result.2, clock := sim.clock.occurred })
    | none => ({ sim with rig := result.2, clock := sim.clock.occurred }).finishOrContinue.map
        (Prod.mk none) := by
  simp only [tick, turns]
  cases serveResponse sim.rig with
  | error => rfl
  | ok served =>
    simp only [ok_bind]
    rcases issueRequest (passRetry served) with _ | ⟨_ | _, _⟩ <;> rfl

theorem tick_gives {faults : Fault → Prop} {sim : Simulation κ ρ μ ε}
    {holds : Option RunError × Simulation κ ρ μ ε → Prop}
    (turned : Gives faults (turns sim.rig) fun result => result.1 = none ∧
      Gives faults ({ sim with rig := result.2, clock := sim.clock.occurred }).finishOrContinue
        fun final => holds (none, final)) : Gives faults sim.tick holds := by
  rw [tick_eq]
  apply turned.bind
  rintro ⟨_, rig⟩ ⟨rfl, ends⟩
  exact ends.map fun _ => id

section

variable {faults : Fault → Prop} {event : SimulationEvent ε} {sim : Simulation κ ρ μ ε}
  {holds : Option RunError × Simulation κ ρ μ ε → Prop}

/-- What an event does, it does unless a number that comes of it is too large. -/
theorem handle_gives_of_le (some_overflow : ∀ fault, Overflow fault → faults fault)
    (reacts : Gives faults (react event sim) holds) : Gives faults (handle event sim) holds := by
  apply reacts.bind
  rintro ⟨failure, next⟩ kept
  cases oversize : next.oversize? with
  | some number =>
    simp only [oversize]
    exact some_overflow _ ⟨number, rfl⟩
  | none =>
    simp only [oversize]
    exact .ok kept

theorem handle_gives (reacts : Gives Overflow (react event sim) holds) :
    Gives Overflow (handle event sim) holds :=
  handle_gives_of_le (fun _ => id) reacts

/-- What an event does, it does if no number that comes of it is too large. -/
theorem handle_of_fits
    (reacts : Gives faults (react event sim) fun result =>
      holds result ∧ result.2.oversize? = none) : Gives faults (handle event sim) holds := by
  apply reacts.bind
  rintro ⟨failure, next⟩ ⟨kept, fits⟩
  simp only [fits]
  exact .ok kept

/-- An event has given something exactly if no number that came of it is too large. -/
theorem handle_eq_ok_iff {result : Option RunError × Simulation κ ρ μ ε} :
    handle event sim = .ok result ↔
      react event sim = .ok result ∧ result.2.oversize? = none := by
  unfold handle
  rcases react event sim with fault | ⟨failure, next⟩
  · exact ⟨nofun, nofun⟩
  · rw [ok_bind]
    cases oversize : next.oversize? with
    | some number =>
      simp only [oversize]
      refine ⟨nofun, ?_⟩
      rintro ⟨⟨⟩, fits⟩
      cases oversize.symm.trans fits
    | none =>
      simp only [oversize]
      refine ⟨?_, And.left⟩
      rintro ⟨⟩
      exact ⟨rfl, oversize⟩

end

/-- The next event fires; without one, nothing happens. -/
def fireNext (sim : Simulation κ ρ μ ε) : Except Fault (Simulation κ ρ μ ε) :=
  match sim.rig.events.takeNext with
  | none => .ok sim
  | some (_, event, events) => do
    let (_, sim) ← handle event { sim with rig := { sim.rig with events } }
    return sim

def fireMany : Nat → Simulation κ ρ μ ε → Except Fault (Simulation κ ρ μ ε)
  | 0, sim => .ok sim
  | count + 1, sim => do fireMany count (← sim.fireNext)

/-- Whichever event fires next, it meets such a fault, or nothing goes wrong and the property still
holds. -/
def Preserves (faults : Fault → Prop) (holds : Simulation κ ρ μ ε → Prop) : Prop :=
  ∀ (sim : Simulation κ ρ μ ε) (entry : EventEntry (SimulationEvent ε))
    (rest : List (EventEntry (SimulationEvent ε))), holds sim →
    sim.rig.events.pending = entry :: rest →
    Gives faults (handle entry.payload
        { sim with rig := { sim.rig with events := sim.rig.events.after entry rest } })
      fun result => result.1 = none ∧ holds result.2

namespace Preserves

variable {faults : Fault → Prop} {holds : Simulation κ ρ μ ε → Prop}
  (preserves : Preserves faults holds)
include preserves

theorem fireNext {sim : Simulation κ ρ μ ε} (now : holds sim) :
    Gives faults sim.fireNext holds := by
  unfold Simulation.fireNext
  cases next : sim.rig.events.takeNext with
  | none => exact .ok now
  | some fired =>
    obtain ⟨entry, rest, pending, rfl⟩ := EventQueue.takeNext_eq_some_iff.1 next
    exact (preserves sim entry rest now pending).bind fun result kept => .ok kept.2

theorem fireMany (count : Nat) {sim : Simulation κ ρ μ ε} (now : holds sim) :
    Gives faults (sim.fireMany count) holds := by
  induction count generalizing sim with
  | zero => exact .ok now
  | succ count ih => exact (preserves.fireNext now).bind fun _ kept => ih kept

theorem advanceWithin (limit fuel : Nat) {sim : Simulation κ ρ μ ε} (now : holds sim) :
    Gives faults (sim.advanceWithin limit fuel) fun result => result.1 = none ∧ holds result.2 := by
  induction fuel generalizing sim with
  | zero => exact .ok ⟨rfl, now⟩
  | succ fuel ih =>
    unfold Simulation.advanceWithin
    cases due : sim.rig.events.takeDue limit with
    | none => exact .ok ⟨rfl, now⟩
    | some fired =>
      obtain ⟨next, -⟩ := EventQueue.takeDue_eq_some_iff.1 due
      obtain ⟨entry, rest, pending, rfl⟩ := EventQueue.takeNext_eq_some_iff.1 next
      refine (preserves sim entry rest now pending).bind ?_
      rintro ⟨failure, sim⟩ ⟨rfl, kept⟩
      exact ih kept

/-- A run in which nothing goes wrong ends with a summary of where it got to. -/
theorem run (limit : Nat) {sim : Simulation κ ρ μ ε} (now : holds sim) :
    Gives faults (sim.run limit) fun result => result.1 = result.2.summary ∧ holds result.2 := by
  refine (preserves.advanceWithin limit _ now).bind ?_
  rintro ⟨failure, final⟩ ⟨rfl, kept⟩
  exact .ok ⟨rfl, kept⟩

end Preserves

/-- Each event within the limit lowers the measure of the states that the property holds of, unless
it meets such a fault or ends the run with an error of this kind. -/
def Descends (faults : Fault → Prop) (limit : Nat) (fails : RunError → Prop)
    (holds : Nat → Simulation κ ρ μ ε → Prop) : Prop :=
  ∀ (measure : Nat) (sim : Simulation κ ρ μ ε) (entry : EventEntry (SimulationEvent ε))
    (rest : List (EventEntry (SimulationEvent ε))), holds measure sim →
    sim.rig.events.pending = entry :: rest → entry.tick ≤ limit →
    Gives faults (handle entry.payload
        { sim with rig := { sim.rig with events := sim.rig.events.after entry rest } })
      fun result => ∃ less < measure, (∃ error, result.1 = some error ∧ fails error) ∨
        result.1 = none ∧ holds less result.2

namespace Descends

variable {faults : Fault → Prop} {limit : Nat} {fails : RunError → Prop}
  {holds : Nat → Simulation κ ρ μ ε → Prop} (descends : Descends faults limit fails holds)
include descends

/-- The events within the limit run out before the fuel does. -/
theorem advanceWithin {fuel measure : Nat} {sim : Simulation κ ρ μ ε} (now : holds measure sim)
    (enough : measure < fuel) : Gives faults (advanceWithin limit fuel sim) fun result =>
      (∃ error, result.1 = some error ∧ fails error) ∨
        result.1 = none ∧ (∃ left, holds left result.2) ∧
          result.2.rig.events.takeDue limit = none := by
  induction fuel generalizing measure sim with
  | zero => cases enough
  | succ fuel ih =>
    unfold Simulation.advanceWithin
    cases due : sim.rig.events.takeDue limit with
    | none => exact .ok (.inr ⟨rfl, ⟨measure, now⟩, due⟩)
    | some fired =>
      obtain ⟨next, within⟩ := EventQueue.takeDue_eq_some_iff.1 due
      obtain ⟨entry, rest, pending, rfl⟩ := EventQueue.takeNext_eq_some_iff.1 next
      refine (descends measure sim entry rest now pending within).bind ?_
      rintro ⟨failure, sim⟩ ⟨less, below, ⟨error, rfl, kind⟩ | ⟨rfl, kept⟩⟩
      · exact .ok (.inl ⟨error, rfl, kind⟩)
      · exact ih kept (by omega)

/-- A run ends with such an error, or once no event is left within the limit. -/
theorem run {measure : Nat} {sim : Simulation κ ρ μ ε} (now : holds measure sim)
    (enough : measure < sim.rig.events.horizon limit) : Gives faults (sim.run limit) fun result =>
      (∃ error, result.1 = .error error ∧ fails error) ∨
        result.1 = result.2.summary ∧ (∃ left, holds left result.2) ∧
          result.2.rig.events.takeDue limit = none := by
  apply (descends.advanceWithin now enough).bind
  rintro ⟨failure, final⟩ (⟨error, rfl, kind⟩ | ⟨rfl, kept⟩)
  · exact .ok (.inl ⟨error, rfl, kind⟩)
  · exact .ok (.inr ⟨rfl, kept⟩)

end Descends

/-- Each event within the limit lowers the measure of the states that the property holds of, unless
it meets such a fault. -/
def Lowers (faults : Fault → Prop) (limit : Nat) (holds : Nat → Simulation κ ρ μ ε → Prop) : Prop :=
  ∀ (measure : Nat) (sim : Simulation κ ρ μ ε) (entry : EventEntry (SimulationEvent ε))
    (rest : List (EventEntry (SimulationEvent ε))), holds measure sim →
    sim.rig.events.pending = entry :: rest → entry.tick ≤ limit →
    Gives faults (handle entry.payload
        { sim with rig := { sim.rig with events := sim.rig.events.after entry rest } })
      fun result => result.1 = none ∧ ∃ less < measure, holds less result.2

namespace Lowers

variable {faults : Fault → Prop} {limit : Nat} {holds : Nat → Simulation κ ρ μ ε → Prop}
  (lowers : Lowers faults limit holds)
include lowers

theorem descends : Descends faults limit (fun _ => False) holds := by
  intro measure sim entry rest now pending within
  apply (lowers measure sim entry rest now pending within).mono
  rintro result ⟨none, less, below, kept⟩
  exact ⟨less, below, .inr ⟨none, kept⟩⟩

/-- If no event is left undone but in states where the run is over, then it gets there. -/
theorem run {finished : Simulation κ ρ μ ε → Prop}
    (ends : ∀ measure sim, holds measure sim → sim.rig.events.takeDue limit = none → finished sim)
    {measure : Nat} {sim : Simulation κ ρ μ ε} (now : holds measure sim)
    (enough : measure < sim.rig.events.horizon limit) : Gives faults (sim.run limit)
      fun result => result.1 = result.2.summary ∧ finished result.2 := by
  apply (lowers.descends.run now enough).mono
  rintro ⟨outcome, final⟩ (⟨_, _, none⟩ | ⟨same, ⟨left, kept⟩, idle⟩)
  · exact none.elim
  · exact ⟨same, ends left final kept idle⟩

end Lowers

/-- The property holds of states with some work left, a bound on the events that do none of it, and
a deadline by which the next piece of it is done. An event does a piece, and then the pace sets the
next deadline, or it lowers the bound, or the run is over with it. -/
structure Paced (limit pace : Nat) (holds : Nat → Nat → Nat → Simulation κ ρ μ ε → Prop)
    (ended : Simulation κ ρ μ ε → Prop) : Prop where
  step {work turns deadline : Nat} {sim : Simulation κ ρ μ ε}
    {entry : EventEntry (SimulationEvent ε)} {rest : List (EventEntry (SimulationEvent ε))}
    (now : holds work turns deadline sim) (pending : sim.rig.events.pending = entry :: rest)
    (within : entry.tick ≤ limit) :
    Gives Overflow (handle entry.payload
        { sim with rig := { sim.rig with events := sim.rig.events.after entry rest } })
      fun result => result.1 = none ∧ (ended result.2 ∨
        (∃ less < work, holds less turns (entry.tick + pace) result.2) ∨
        ∃ fewer < turns, holds work fewer deadline result.2)
  soon {work turns deadline : Nat} {sim : Simulation κ ρ μ ε}
    (now : holds work turns deadline sim) :
    ∃ entry rest, sim.rig.events.pending = entry :: rest ∧ entry.tick ≤ deadline
  drained {sim : Simulation κ ρ μ ε} (done : ended sim) : sim.rig.events.pending = []

namespace Paced

variable {limit pace : Nat} {holds : Nat → Nat → Nat → Simulation κ ρ μ ε → Prop}
  {ended : Simulation κ ρ μ ε → Prop}

/-- The run is over, or the work that is left can be done within the limit. -/
def Afford (limit pace : Nat) (holds : Nat → Nat → Nat → Simulation κ ρ μ ε → Prop)
    (ended : Simulation κ ρ μ ε → Prop) (measure : Nat) (sim : Simulation κ ρ μ ε) : Prop :=
  ended sim ∨ ∃ work turns deadline, holds work turns deadline sim ∧
    deadline + pace * work ≤ limit ∧ work + turns < measure

/-- Work done by the deadline pays for the next deadline. -/
theorem deadline_add_le {work less now deadline : Nat} (lower : less < work)
    (order : now ≤ deadline) (budget : deadline + pace * work ≤ limit) :
    now + pace + pace * less ≤ limit := by
  have unit := Nat.mul_le_mul_left pace (Nat.succ_le_of_lt lower)
  rw [Nat.mul_succ] at unit
  omega

variable (paced : Paced limit pace holds ended)
include paced

theorem lowers : Lowers Overflow limit (Afford limit pace holds ended) := by
  intro measure sim entry rest affords pending within
  rcases affords with done | ⟨work, turns, deadline, now, budget, events⟩
  · rw [paced.drained done] at pending
    cases pending
  · apply (paced.step now pending within).mono
    rintro result ⟨none, done | ⟨less, lower, next⟩ | ⟨fewer, lower, next⟩⟩
    · exact ⟨none, 0, by omega, .inl done⟩
    · obtain ⟨first, others, pending', soon⟩ := paced.soon now
      obtain ⟨rfl, rfl⟩ := List.cons.inj (pending.symm.trans pending')
      exact ⟨none, less + turns + 1, by omega,
        .inr ⟨less, turns, _, next, deadline_add_le lower soon budget, Nat.lt_succ_self _⟩⟩
    · exact ⟨none, work + fewer + 1, by omega,
        .inr ⟨work, fewer, deadline, next, budget, Nat.lt_succ_self _⟩⟩

/-- With enough ticks for all the work, the run is over in the end. -/
theorem run {work turns deadline : Nat} {sim : Simulation κ ρ μ ε}
    (now : holds work turns deadline sim) (budget : deadline + pace * work ≤ limit)
    (enough : work + turns + 1 < sim.rig.events.horizon limit) : Gives Overflow (sim.run limit)
      fun result => result.1 = result.2.summary ∧ ended result.2 := by
  apply paced.lowers.run ?_ (.inr ⟨work, turns, deadline, now, budget, Nat.lt_succ_self _⟩) enough
  rintro measure final (done | ⟨work, turns, deadline, now, budget, -⟩) idle
  · exact done
  · obtain ⟨entry, rest, pending, soon⟩ := paced.soon now
    have within : entry.tick ≤ limit := by omega
    simp only [EventQueue.takeDue, pending, within, ↓reduceIte, reduceCtorEq] at idle

end Paced

end Simulation

end GatedMemory
