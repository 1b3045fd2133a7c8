import GatedMemory.Fault

/-!
The event queue: pending events in firing order, and virtual time. Events fire by tick, then by
priority, then in the order in which they were scheduled.
-/

set_option autoImplicit false

namespace GatedMemory

namespace Priority

/-- Latency completions and deliveries. -/
def standard : Int := 0

/-- Drivers that run once a cycle, after the completions of the same tick. -/
def clock : Int := 50

/-- Stimuli from peers outside the component under test. -/
def external : Int := 100

end Priority

/-- A scheduled event. -/
structure EventEntry (α : Type) where
  /-- When the event is due. -/
  tick : Nat
  /-- Order among the events of one tick; the lower number fires first. -/
  priority : Int
  /-- Number of events that were scheduled before this one; it names the event for cancelling. -/
  id : Nat
  payload : α

/-- The firing order: by tick, then priority, then order of scheduling. -/
def EventEntry.Precedes {α : Type} (a b : EventEntry α) : Prop :=
  a.tick < b.tick ∨ a.tick = b.tick ∧
    (a.priority < b.priority ∨ a.priority = b.priority ∧ a.id < b.id)

instance {α : Type} (a b : EventEntry α) : Decidable (a.Precedes b) :=
  inferInstanceAs (Decidable (_ ∨ _ ∧ (_ ∨ _ ∧ _)))

theorem EventEntry.Precedes.trans {α : Type} {a b c : EventEntry α}
    (ab : a.Precedes b) (bc : b.Precedes c) : a.Precedes c := by
  unfold EventEntry.Precedes at *
  omega

/-- Of two events under different numbers, one comes first. -/
theorem EventEntry.precedes_of_not_precedes {α : Type} {a b : EventEntry α}
    (apart : a.id ≠ b.id) (second : ¬ b.Precedes a) : a.Precedes b := by
  unfold EventEntry.Precedes at *
  omega

theorem EventEntry.not_precedes_trans {α : Type} {a b c : EventEntry α}
    (ba : ¬ b.Precedes a) (cb : ¬ c.Precedes b) : ¬ c.Precedes a := by
  unfold EventEntry.Precedes at *
  omega

theorem EventEntry.Precedes.not_precedes {α : Type} {a b : EventEntry α} (ab : a.Precedes b) :
    ¬ b.Precedes a := by
  unfold EventEntry.Precedes at *
  omega

/-- Puts an entry before the first one that it precedes. -/
def insertEntry {α : Type} (entry : EventEntry α) : List (EventEntry α) → List (EventEntry α)
  | [] => [entry]
  | head :: rest =>
    if entry.Precedes head then entry :: head :: rest else head :: insertEntry entry rest

theorem insertEntry_perm {α : Type} (entry : EventEntry α) (entries : List (EventEntry α)) :
    (insertEntry entry entries).Perm (entry :: entries) := by
  induction entries with
  | nil => exact .refl _
  | cons head rest ih =>
    simp only [insertEntry]
    split
    · exact .refl _
    · exact (ih.cons head).trans (.swap entry head rest)

/-- Insertion keeps the firing order, given that the new entry was scheduled last. -/
theorem insertEntry_pairwise {α : Type} {entry : EventEntry α} {entries : List (EventEntry α)}
    (sorted : entries.Pairwise EventEntry.Precedes)
    (last : ∀ other ∈ entries, other.id < entry.id) :
    (insertEntry entry entries).Pairwise EventEntry.Precedes := by
  induction entries with
  | nil => simp only [insertEntry, List.pairwise_singleton]
  | cons head rest ih =>
    obtain ⟨first, tail⟩ := List.pairwise_cons.1 sorted
    simp only [insertEntry]
    split
    case isTrue before =>
      refine List.pairwise_cons.2 ⟨fun other mem => ?_, sorted⟩
      rcases List.mem_cons.1 mem with rfl | mem
      · exact before
      · exact before.trans (first other mem)
    case isFalse after =>
      refine List.pairwise_cons.2 ⟨fun other mem => ?_, ih tail fun other mem =>
        last other (List.mem_cons_of_mem _ mem)⟩
      rcases List.mem_cons.1 ((insertEntry_perm entry rest).mem_iff.1 mem) with rfl | mem
      · exact EventEntry.precedes_of_not_precedes
          (Nat.ne_of_lt (last head List.mem_cons_self)) after
      · exact first other mem

/-- Pending events in firing order, and the current tick. -/
structure EventQueue (α : Type) where
  pending : List (EventEntry α)
  /-- The number that the next event gets. -/
  nextId : Nat
  now : Nat

namespace EventQueue

variable {α : Type}

/-- No event, at tick zero. -/
def empty : EventQueue α :=
  { pending := [], nextId := 0, now := 0 }

def size (queue : EventQueue α) : Nat :=
  queue.pending.length

def isEmpty (queue : EventQueue α) : Bool :=
  queue.pending.isEmpty

/-- Adds an event to fire at `tick`, which must not lie before the current tick. -/
def schedule (queue : EventQueue α) (tick : Nat) (priority : Int) (payload : α) :
    Except Fault (Nat × EventQueue α) :=
  if tick < queue.now then .error (.scheduledInPast tick queue.now)
  else
    let entry := { tick, priority, id := queue.nextId, payload }
    .ok (queue.nextId,
      { queue with pending := insertEntry entry queue.pending, nextId := queue.nextId + 1 })

theorem schedule_of_le {queue : EventQueue α} {tick : Nat} (future : queue.now ≤ tick)
    (priority : Int) (payload : α) :
    queue.schedule tick priority payload = .ok (queue.nextId,
      { queue with
        pending := insertEntry ⟨tick, priority, queue.nextId, payload⟩ queue.pending
        nextId := queue.nextId + 1 }) := by
  simp only [schedule, Nat.not_lt.2 future, ↓reduceIte]

theorem schedule_of_lt {queue : EventQueue α} {tick : Nat} (past : tick < queue.now)
    (priority : Int) (payload : α) :
    queue.schedule tick priority payload = .error (.scheduledInPast tick queue.now) := by
  simp only [schedule, past, ↓reduceIte]

/-- Whether the event is still to fire. -/
def isPending (queue : EventQueue α) (id : Nat) : Bool :=
  queue.pending.any fun entry => entry.id == id

/-- Removes an event; without effect once it has fired or was removed. -/
def cancel (queue : EventQueue α) (id : Nat) : EventQueue α :=
  { queue with pending := queue.pending.filter fun entry => entry.id != id }

/-- The tick of the next event. -/
def nextTick? (queue : EventQueue α) : Option Nat :=
  queue.pending.head?.map EventEntry.tick

/-- Takes the next event if it is due at `limit` or before, and moves time to it. -/
def takeDue (queue : EventQueue α) (limit : Nat) : Option (Nat × α × EventQueue α) :=
  match queue.pending with
  | [] => none
  | head :: rest =>
    if head.tick ≤ limit then
      some (head.tick, head.payload, { queue with pending := rest, now := head.tick })
    else none

/-- Takes the next event, whenever it is due, and moves time to it. -/
def takeNext (queue : EventQueue α) : Option (Nat × α × EventQueue α) :=
  queue.nextTick?.bind queue.takeDue

/-- Moves time on to `tick`; time never moves back. -/
def moveTo (queue : EventQueue α) (tick : Nat) : EventQueue α :=
  { queue with now := max queue.now tick }

/-- A bound on the number of events that fire at `limit` or before, if each event schedules at most
two that schedule nothing, and one more of its own kind at a later tick. -/
def horizon (queue : EventQueue α) (limit : Nat) : Nat :=
  3 * (limit + 1 - queue.now) * queue.size + 1

end EventQueue

end GatedMemory
