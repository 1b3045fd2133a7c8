import GatedMemory.Proofs.ClockGrid
import GatedMemory.Proofs.Episodes
import GatedMemory.Proofs.Frugal

set_option autoImplicit false

namespace GatedMemory

namespace EventQueue

variable {α : Type} {queue next : EventQueue α}

/-- The queue later on: neither time nor the numbers of events go back. -/
structure Continues (queue next : EventQueue α) : Prop where
  sound : next.Sound
  now_le : queue.now ≤ next.now
  nextId_le : queue.nextId ≤ next.nextId

theorem Sound.continues (sound : queue.Sound) : queue.Continues queue :=
  ⟨sound, Nat.le_refl _, Nat.le_refl _⟩

theorem Drops.continues (drops : queue.Drops next) (sound : queue.Sound) :
    queue.Continues next where
  sound := drops.sound sound
  now_le := Nat.le_of_eq drops.now_eq.symm
  nextId_le := by
    cases drops with
    | nothing => exact Nat.le_refl _
    | event => exact Nat.le_refl _

theorem continues_scheduled (sound : queue.Sound) {tick : Nat} (future : queue.now ≤ tick)
    (priority : Int) (payload : α) :
    queue.Continues (queue.scheduled tick priority payload) where
  sound := scheduled_sound sound future
  now_le := Nat.le_refl _
  nextId_le := Nat.le_succ _

theorem continues_after (sound : queue.Sound) {entry : EventEntry α} {rest : List (EventEntry α)}
    (pending : queue.pending = entry :: rest) : queue.Continues (queue.after entry rest) where
  sound := after_sound sound pending
  now_le := now_le_of_pending sound pending
  nextId_le := Nat.le_refl _

theorem continues_moveTo (sound : queue.Sound) {tick : Nat}
    (idle : ∀ entry ∈ queue.pending, tick ≤ entry.tick) : queue.Continues (queue.moveTo tick) where
  sound := moveTo_sound sound idle
  now_le := Nat.le_max_left _ _
  nextId_le := Nat.le_refl _

end EventQueue

variable {κ ε ρ μ : Type}

/-- A packet that a component accepted. -/
structure Booking (κ ε : Type) where
  /-- The call that the packet came with. -/
  call : Call ε
  /-- When it was accepted. -/
  tick : Nat
  /-- The component once it had accepted the packet. -/
  component : κ
  /-- The events that the component scheduled for it. -/
  scheduled : List (EventEntry ε)

namespace Booking

variable {earlier later : Booking κ ε}

/-- Exactly one event was scheduled for the packet, so many cycles after it was accepted. -/
def Due (booking : Booking κ ε) (cycles period : Nat) (event : ε) : Prop :=
  ∃ id, booking.scheduled =
    [⟨Clock.edge booking.tick cycles period, Priority.standard, id, event⟩]

structure InOrder (earlier later : Booking κ ε) : Prop where
  tick_le : earlier.tick ≤ later.tick
  numbered : ∀ first ∈ earlier.scheduled, ∀ second ∈ later.scheduled, first.id < second.id

/-- The packets come due in this order; when they do so at one tick, the events still fire in this
order. -/
def DueInOrder (earlier later : Booking κ ε) : Prop :=
  ∀ first ∈ earlier.scheduled, ∀ second ∈ later.scheduled,
    first.tick ≤ second.tick ∧ first.Precedes second

/-- As many cycles from a later tick lead to no earlier edge, and of two events at one edge that
with the lower number fires first. -/
theorem InOrder.due {cycles period : Nat} {first second : ε} (order : earlier.InOrder later)
    (due : earlier.Due cycles period first) (due' : later.Due cycles period second) :
    earlier.DueInOrder later := by
  obtain ⟨id, scheduled⟩ := due
  obtain ⟨id', scheduled'⟩ := due'
  have ticks : Clock.edge earlier.tick cycles period ≤ Clock.edge later.tick cycles period :=
    Clock.edge_monotone cycles period order.tick_le
  have numbers := order.numbered
  simp only [scheduled, scheduled', List.mem_singleton, forall_eq] at numbers
  simp only [DueInOrder, scheduled, scheduled', List.mem_singleton, forall_eq]
  refine ⟨ticks, ?_⟩
  rcases Nat.lt_or_eq_of_le ticks with sooner | same
  · exact .inl sooner
  · exact .inr ⟨same, .inr ⟨rfl, numbers⟩⟩

end Booking

/-- Makes a call, and tells whether the component accepted a packet with it. -/
def Rig.submit [Intermediary κ ε] [ResponseSink ρ] [RequestSink μ] :
    Call ε → Rig κ ρ μ ε → Except Fault (Bool × Rig κ ρ μ ε)
  | .request packet, rig => do
    let (answer, rig) ← Intermediary.request packet rig
    return (answer.toOption.any Delivery.isAccepted, rig)
  | .response packet, rig => do
    let (delivery, rig) ← Intermediary.response packet rig
    return (delivery.isAccepted, rig)
  | call, rig => do
    let (_, rig) ← rig.call call
    return (false, rig)

/-- A component between two peers, and the packets that it has accepted, oldest first. -/
structure Register (κ ε ρ μ : Type) where
  rig : Rig κ ρ μ ε
  bookings : List (Booking κ ε)

namespace Register

def blank (component : κ) (requester : ρ) (memory : μ) : Register κ ε ρ μ :=
  { rig := .assemble component requester memory, bookings := [] }

/-- Enters what a call on the component has led to. -/
def enter (register : Register κ ε ρ μ) (call : Call ε) (accepted : Bool)
    (next : Rig κ ρ μ ε) : Register κ ε ρ μ :=
  let booking := {
    call, tick := register.rig.now, component := next.component
    scheduled := register.rig.events.entered next.events }
  { rig := next, bookings := register.bookings ++ if accepted then [booking] else [] }

variable [Intermediary κ ε] [ResponseSink ρ] [RequestSink μ]

def record (call : Call ε) (register : Register κ ε ρ μ) :
    Except Fault (Register κ ε ρ μ) := do
  let (accepted, next) ← register.rig.submit call
  return register.enter call accepted next

/-- Lets something happen. -/
def live (register : Register κ ε ρ μ) : Happening ε ρ μ → Except Fault (Register κ ε ρ μ)
  | .call call => register.record call
  | .fire =>
    match register.rig.events.takeNext with
    | none => .ok register
    | some (_, event, events) =>
      record (.event event) { register with rig := { register.rig with events } }
  | .wait tick =>
    if ∀ entry ∈ register.rig.events.pending, tick ≤ entry.tick then
      .ok { register with rig := { register.rig with events := register.rig.events.moveTo tick } }
    else .ok register
  | .change requester memory =>
    .ok { register with rig := { register.rig with requester, memory } }

end Register

/-- What a call may come to: the component is still able to do what it is called for, and what it
has scheduled for a packet that it accepted obeys a law. -/
structure Booked (able : κ → Prop) (law : Booking κ ε → Prop) (call : Call ε)
    (rig : Rig κ ρ μ ε) (result : Bool × Rig κ ρ μ ε) : Prop where
  able : able result.2.component
  continues : rig.events.Continues result.2.events
  lawful : result.1 = true → law {
    call, tick := rig.now, component := result.2.component
    scheduled := rig.events.entered result.2.events }

theorem Booked.idle {able : κ → Prop} {law : Booking κ ε → Prop} {call : Call ε}
    {rig next : Rig κ ρ μ ε} (can : able next.component)
    (continues : rig.events.Continues next.events) : Booked able law call rig (false, next) where
  able := can
  continues := continues
  lawful := nofun

/-- As long as the component is able to, it does what it is called for, and what it schedules for a
packet that it accepts obeys a law. -/
structure Books [Intermediary κ ε] (able : κ → Prop) (law : Booking κ ε → Prop) : Prop where
  submit {ρ μ : Type} [ResponseSink ρ] [RequestSink μ] (rig : Rig κ ρ μ ε) (call : Call ε)
    (can : able rig.component) (sound : rig.events.Sound) :
    Gives Overflow (rig.submit call) (Booked able law call rig)

namespace Register

variable {able : κ → Prop} {law : Booking κ ε → Prop} {register : Register κ ε ρ μ}
  {next : Rig κ ρ μ ε}

/-- The packets entered so far are those from before and the new one. -/
theorem forall_mem_enter {call : Call ε} {holds : Booking κ ε → Prop}
    (before : ∀ booking ∈ register.bookings, holds booking)
    (last : holds {
      call, tick := register.rig.now, component := next.component
      scheduled := register.rig.events.entered next.events }) :
    ∀ booking ∈ (register.enter call true next).bookings, holds booking := by
  intro booking member
  rcases List.mem_append.1 member with early | late
  · exact before booking early
  · rw [List.mem_singleton.1 late]
    exact last

/-- Every packet obeys the law, and all were accepted in the order in which they are entered, at a
tick that has passed. -/
structure Orderly (able : κ → Prop) (law : Booking κ ε → Prop) (register : Register κ ε ρ μ) :
    Prop where
  able : able register.rig.component
  sound : register.rig.events.Sound
  lawful : ∀ booking ∈ register.bookings, law booking
  past : ∀ booking ∈ register.bookings, booking.tick ≤ register.rig.now
  numbered : ∀ booking ∈ register.bookings, ∀ entry ∈ booking.scheduled,
    entry.id < register.rig.events.nextId
  order : register.bookings.Pairwise Booking.InOrder

theorem blank_orderly {component : κ} (can : able component) (law : Booking κ ε → Prop)
    (requester : ρ) (memory : μ) : Orderly able law (blank component requester memory) where
  able := can
  sound := EventQueue.sound_empty
  lawful := nofun
  past := nofun
  numbered := nofun
  order := List.Pairwise.nil

namespace Orderly

variable (orderly : Orderly able law register)
include orderly

theorem pass (can : able next.component)
    (continues : register.rig.events.Continues next.events) :
    Orderly able law { register with rig := next } where
  able := can
  sound := continues.sound
  lawful := orderly.lawful
  past booking member := Nat.le_trans (orderly.past booking member) continues.now_le
  numbered booking member entry present :=
    Nat.lt_of_lt_of_le (orderly.numbered booking member entry present) continues.nextId_le
  order := orderly.order

theorem accept {call : Call ε} (can : able next.component)
    (continues : register.rig.events.Continues next.events)
    (obeys : law {
      call, tick := register.rig.now, component := next.component
      scheduled := register.rig.events.entered next.events }) :
    Orderly able law (register.enter call true next) := by
  have old := orderly.pass can continues
  constructor
  case able => exact can
  case sound => exact continues.sound
  case lawful => exact forall_mem_enter orderly.lawful obeys
  case past => exact forall_mem_enter old.past continues.now_le
  case numbered =>
    apply forall_mem_enter
    · exact old.numbered
    · intro entry present
      exact continues.sound.numbered entry (List.mem_filter.1 present).1
  case order =>
    apply List.pairwise_append.2
    refine ⟨orderly.order, List.pairwise_singleton _ _, fun earlier early later last => ?_⟩
    rw [List.mem_singleton.1 last]
    constructor
    · exact orderly.past earlier early
    · intro first present second entered
      have fresh := of_decide_eq_true (List.mem_filter.1 entered).2
      exact Nat.lt_of_lt_of_le (orderly.numbered earlier early first present) fresh

variable [Intermediary κ ε] [ResponseSink ρ] [RequestSink μ] (books : Books able law)
include books

theorem record (call : Call ε) : Gives Overflow (register.record call) (Orderly able law) := by
  apply (books.submit register.rig call orderly.able orderly.sound).bind
  intro result booked
  obtain ⟨accepted, next⟩ := result
  cases accepted with
  | true => exact .ok (orderly.accept booked.able booked.continues (booked.lawful rfl))
  | false =>
    have passed := orderly.pass booked.able booked.continues
    simp only [enter, Bool.false_eq_true, ↓reduceIte, List.append_nil]
    exact .ok passed

theorem live (happening : Happening ε ρ μ) :
    Gives Overflow (register.live happening) (Orderly able law) := by
  cases happening with
  | call call => exact orderly.record books call
  | fire =>
    simp only [Register.live]
    cases taken : register.rig.events.takeNext with
    | none => exact .ok orderly
    | some fired =>
      obtain ⟨entry, rest, pending, rfl⟩ := EventQueue.takeNext_eq_some_iff.1 taken
      let next : Rig κ ρ μ ε := { register.rig with events := register.rig.events.after entry rest }
      have passed : Orderly able law { register with rig := next } :=
        orderly.pass orderly.able (EventQueue.continues_after orderly.sound pending)
      exact passed.record books (.event entry.payload)
  | wait tick =>
    simp only [Register.live]
    split
    case isTrue idle =>
      have passed := EventQueue.continues_moveTo orderly.sound idle
      exact .ok (orderly.pass orderly.able passed)
    case isFalse => exact .ok orderly
  | change requester memory =>
    exact .ok (orderly.pass orderly.able orderly.sound.continues)

end Orderly

theorem run_orderly [Intermediary κ ε] [ResponseSink ρ] [RequestSink μ] (books : Books able law)
    {component : κ} (can : able component) (requester : ρ) (memory : μ)
    (happenings : List (Happening ε ρ μ)) :
    Gives Overflow (happenings.foldlM live (blank component requester memory))
      (Orderly able law) := by
  have step : ∀ (register : Register κ ε ρ μ) happening, Orderly able law register →
      Gives Overflow (register.live happening) (Orderly able law) :=
    fun _ happening orderly => orderly.live books happening
  exact Gives.foldlM step happenings (blank_orderly can law requester memory)

end Register

end GatedMemory
