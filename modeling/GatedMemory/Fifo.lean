/-!
A queue of fixed capacity, first in, first out. Admission control is its only use: a full queue
hands the value back, and a head that could not be sent on stays the head.
-/

set_option autoImplicit false

namespace GatedMemory

/-- At most `capacity` values, oldest first. -/
structure BoundedFifo (α : Type) where
  items : List α
  capacity : Nat
deriving DecidableEq

namespace BoundedFifo

variable {α σ : Type}

/-- No values. Whether memory has room for the capacity is left out. -/
def empty (capacity : Nat) : BoundedFifo α :=
  { items := [], capacity }

def size (queue : BoundedFifo α) : Nat :=
  queue.items.length

def isEmpty (queue : BoundedFifo α) : Bool :=
  queue.items.isEmpty

def isFull (queue : BoundedFifo α) : Bool :=
  queue.capacity ≤ queue.items.length

/-- The oldest value. -/
def head? (queue : BoundedFifo α) : Option α :=
  queue.items.head?

/-- The newest value. -/
def last? (queue : BoundedFifo α) : Option α :=
  queue.items.getLast?

/-- Appends a value; a full queue gives it back. -/
def push (queue : BoundedFifo α) (value : α) : Except α (BoundedFifo α) :=
  if queue.isFull then .error value
  else .ok { queue with items := queue.items ++ [value] }

theorem push_of_lt {queue : BoundedFifo α} (room : queue.items.length < queue.capacity)
    (value : α) : queue.push value = .ok { queue with items := queue.items ++ [value] } := by
  simp only [push, isFull, Nat.not_le.2 room, decide_false, Bool.false_eq_true, ↓reduceIte]

theorem push_of_le {queue : BoundedFifo α} (full : queue.capacity ≤ queue.items.length)
    (value : α) : queue.push value = .error value := by
  simp only [push, isFull, full, decide_true, ↓reduceIte]

/-- Takes the oldest value. -/
def pop (queue : BoundedFifo α) : Option (α × BoundedFifo α) :=
  match queue.items with
  | [] => none
  | head :: rest => some (head, { queue with items := rest })

/-- Offers the oldest value to a receiver in state `receiver`. The receiver answers `none` if it
keeps the value, or gives one back, which then stands at the head again. The result says whether
the value was kept; without a value the receiver is not asked. -/
def offerHead (queue : BoundedFifo α) (offer : α → σ → Option α × σ) (receiver : σ) :
    Bool × BoundedFifo α × σ :=
  match queue.items with
  | [] => (false, queue, receiver)
  | head :: rest =>
    match offer head receiver with
    | (none, receiver) => (true, { queue with items := rest }, receiver)
    | (some back, receiver) => (false, { queue with items := back :: rest }, receiver)

end BoundedFifo

end GatedMemory
