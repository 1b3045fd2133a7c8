import GatedMemory.Event.Heap
import GatedMemory.Event.Repeating

/-!
The event queue on a heap. To find an event in the heap would take long, so cancelling only strikes
its number off the list of live ones. The event itself stays in the heap until it gets to the top.
-/

set_option autoImplicit false

namespace GatedMemory

namespace EventHeap

variable {α : Type}

/-- Takes events off the top until a live one is there. -/
def discard (live : List Nat) : EventHeap α → EventHeap α
  | empty => empty
  | node first left right =>
    if first.id ∈ live then node first left right else discard live (merge left right)
termination_by heap => heap.size
decreasing_by
  rw [size_merge, size]
  exact Nat.lt_add_one _

end EventHeap

/-- Scheduled events, some of which may be cancelled, and the current tick. -/
structure LazyQueue (α : Type) where
  heap : EventHeap α
  /-- The numbers of the events that have neither fired nor been cancelled. -/
  live : List Nat
  /-- The number that the next event gets. -/
  nextId : Nat
  now : Nat

namespace LazyQueue

variable {α : Type}

/-- No event, at tick zero. -/
def empty : LazyQueue α :=
  { heap := .empty, live := [], nextId := 0, now := 0 }

/-- Events that are still to fire. -/
def size (queue : LazyQueue α) : Nat :=
  queue.live.length

def isEmpty (queue : LazyQueue α) : Bool :=
  queue.live.isEmpty

/-- The queue with no cancelled event at the top. -/
def trimmed (queue : LazyQueue α) : LazyQueue α :=
  { queue with heap := queue.heap.discard queue.live }

/-- Adds an event to fire at `tick`, which must not lie before the current tick. -/
def schedule (queue : LazyQueue α) (tick : Nat) (priority : Int) (payload : α) :
    Except Fault (Nat × LazyQueue α) :=
  if tick < queue.now then .error (.scheduledInPast tick queue.now)
  else
    .ok (queue.nextId, { queue with
      heap := queue.heap.push { tick, priority, id := queue.nextId, payload }
      live := queue.nextId :: queue.live
      nextId := queue.nextId + 1 })

/-- Cancels an event; without effect once it has fired or was cancelled. -/
def cancel (queue : LazyQueue α) (id : Nat) : Bool × LazyQueue α :=
  (queue.live.contains id, { queue with live := queue.live.erase id })

/-- The tick of the next event. -/
def nextTick? (queue : LazyQueue α) : Option Nat × LazyQueue α :=
  (queue.trimmed.heap.top?.map EventEntry.tick, queue.trimmed)

/-- The queue once the event at the top has fired. -/
def fire (queue : LazyQueue α) (entry : EventEntry α) : LazyQueue α :=
  { queue with heap := queue.heap.pop, live := queue.live.erase entry.id, now := entry.tick }

/-- Takes the next event if it is due at `limit` or before, and moves time to it. -/
def takeDue (queue : LazyQueue α) (limit : Nat) : Option (EventEntry α) × LazyQueue α :=
  match queue.trimmed.heap.top? with
  | none => (none, queue.trimmed)
  | some entry =>
    if entry.tick ≤ limit then (some entry, queue.trimmed.fire entry) else (none, queue.trimmed)

/-- Takes the next event, whenever it is due, and moves time to it. -/
def takeNext (queue : LazyQueue α) : Option (EventEntry α) × LazyQueue α :=
  match queue.nextTick? with
  | (none, queue) => (none, queue)
  | (some tick, queue) => queue.takeDue tick

/-- Moves time on to `tick`; time never moves back. -/
def moveTo (queue : LazyQueue α) (tick : Nat) : LazyQueue α :=
  { queue with now := max queue.now tick }

/-- Schedules the next occurrence of a task, unless one is pending or the task is stopped. -/
def scheduleNext (queue : LazyQueue α) (task : RepeatingEvent) (tick : Nat) (payload : α) :
    Except Fault (RepeatingEvent × LazyQueue α) :=
  if task.canSchedule then do
    let (id, queue) ← queue.schedule tick task.priority payload
    return ({ task with pending := some id }, queue)
  else return (task, queue)

end LazyQueue

end GatedMemory
