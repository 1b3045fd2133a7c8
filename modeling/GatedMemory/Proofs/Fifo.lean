import GatedMemory.Fifo

set_option autoImplicit false

namespace GatedMemory

variable {α σ τ : Type}

namespace BoundedFifo

variable {queue : BoundedFifo α} {head : α} {rest : List α} {offer : α → τ → Option α × τ}
  {state state' : τ}

theorem offerHead_of_nil (empty : queue.items = []) (offer : α → τ → Option α × τ) (state : τ) :
    queue.offerHead offer state = (false, queue, state) := by
  simp only [offerHead, empty]

theorem offerHead_of_kept (items : queue.items = head :: rest)
    (kept : offer head state = (none, state')) :
    queue.offerHead offer state = (true, { queue with items := rest }, state') := by
  simp only [offerHead, items, kept]

theorem offerHead_of_back (items : queue.items = head :: rest)
    (back : offer head state = (some head, state')) :
    queue.offerHead offer state = (false, queue, state') := by
  simp only [offerHead, items, back]
  rw [← items]

theorem pop_of_nil (empty : queue.items = []) : queue.pop = none := by
  simp only [pop, empty]

theorem pop_of_cons (items : queue.items = head :: rest) :
    queue.pop = some (head, { queue with items := rest }) := by
  simp only [pop, items]

theorem pop_eq_some_iff {left : BoundedFifo α} : queue.pop = some (head, left) ↔
    ∃ rest, queue.items = head :: rest ∧ left = { queue with items := rest } := by
  constructor
  · intro popped
    cases items : queue.items with
    | nil =>
      rw [pop_of_nil items] at popped
      cases popped
    | cons first rest =>
      rw [pop_of_cons items] at popped
      cases popped
      exact ⟨rest, rfl, rfl⟩
  · rintro ⟨rest, items, rfl⟩
    exact pop_of_cons items

end BoundedFifo

/-- What a value can be offered to. It keeps the value, or hands the same one back. -/
structure Receiver (α σ : Type) where
  offer : α → σ → Option α × σ
  honest : ∀ value back world, (offer value world).1 = some back → back = value

namespace Receiver

inductive Outcome (queue : BoundedFifo α) (receiver : Receiver α σ) (world : σ) :
    Bool × BoundedFifo α × σ → Prop where
  | unasked (empty : queue.items = []) : Outcome queue receiver world (false, queue, world)
  | kept {head : α} {rest : List α} {world' : σ} (items : queue.items = head :: rest)
    (kept : receiver.offer head world = (none, world')) :
    Outcome queue receiver world (true, { queue with items := rest }, world')
  | back {head : α} {rest : List α} {world' : σ} (items : queue.items = head :: rest)
    (back : receiver.offer head world = (some head, world')) :
    Outcome queue receiver world (false, queue, world')

theorem outcome (queue : BoundedFifo α) (receiver : Receiver α σ) (world : σ) :
    Outcome queue receiver world (queue.offerHead receiver.offer world) := by
  cases items : queue.items with
  | nil =>
    rw [BoundedFifo.offerHead_of_nil items]
    exact .unasked items
  | cons head rest =>
    have honest := receiver.honest head
    rcases answer : receiver.offer head world with ⟨back, world'⟩
    cases back with
    | none =>
      rw [BoundedFifo.offerHead_of_kept items answer]
      exact .kept items answer
    | some back =>
      obtain rfl : back = head := honest back world (by rw [answer])
      rw [BoundedFifo.offerHead_of_back items answer]
      exact .back items answer

/-- The receiver, and a note of the values that it keeps. -/
def noting (receiver : Receiver α σ) : Receiver α (σ × List α) where
  offer value state :=
    let (back, world) := receiver.offer value state.1
    (back, world, if back.isNone then state.2 ++ [value] else state.2)
  honest value back state := receiver.honest value back state.1

variable {receiver : Receiver α σ} {value : α} {state next : σ × List α}

theorem noting_kept (kept : receiver.noting.offer value state = (none, next)) :
    next.2 = state.2 ++ [value] := by
  simp only [noting, Prod.mk.injEq] at kept
  obtain ⟨kept, rfl⟩ := kept
  simp [kept]

theorem noting_back {back : α} (returned : receiver.noting.offer value state = (some back, next)) :
    next.2 = state.2 := by
  simp only [noting, Prod.mk.injEq] at returned
  obtain ⟨returned, rfl⟩ := returned
  simp [returned]

end Receiver

/-- What can be done with a queue. -/
inductive FifoOp (α σ : Type) where
  | push (value : α)
  | pop
  | offer (receiver : Receiver α σ)

/-- A queue, and what went in and came out. -/
structure FifoRecord (α σ : Type) where
  queue : BoundedFifo α
  /-- What the receivers look at and change. -/
  world : σ
  /-- The values that were taken in, oldest first. -/
  entered : List α
  /-- The values that were popped or that a receiver has kept, oldest first. -/
  left : List α

namespace FifoRecord

def opening (capacity : Nat) (world : σ) : FifoRecord α σ :=
  { queue := .empty capacity, world, entered := [], left := [] }

def perform (record : FifoRecord α σ) : FifoOp α σ → FifoRecord α σ
  | .push value =>
    match record.queue.push value with
    | .ok queue => { record with queue, entered := record.entered ++ [value] }
    | .error _ => record
  | .pop =>
    match record.queue.pop with
    | some (value, queue) => { record with queue, left := record.left ++ [value] }
    | none => record
  | .offer receiver =>
    let (_, queue, world, left) :=
      record.queue.offerHead receiver.noting.offer (record.world, record.left)
    { record with queue, world, left }

variable {capacity : Nat} {record : FifoRecord α σ}

/-- What went in has come out or is still there, in order, and there is no more than fits. -/
structure Tallied (capacity : Nat) (record : FifoRecord α σ) : Prop where
  configured : record.queue.capacity = capacity
  bounded : record.queue.items.length ≤ capacity
  order : record.left ++ record.queue.items = record.entered

theorem opening_tallied (capacity : Nat) (world : σ) :
    Tallied capacity (opening capacity world : FifoRecord α σ) where
  configured := rfl
  bounded := Nat.zero_le _
  order := rfl

namespace Tallied

variable (tallied : Tallied capacity record)
include tallied

theorem enter (value : α) (room : record.queue.items.length < capacity) :
    Tallied capacity { record with
      queue := { record.queue with items := record.queue.items ++ [value] }
      entered := record.entered ++ [value] } where
  configured := tallied.configured
  bounded := by
    simp only [List.length_append, List.length_singleton]
    omega
  order := by
    simp only [← tallied.order, List.append_assoc]

theorem leave {head : α} {rest : List α} (items : record.queue.items = head :: rest) (world : σ) :
    Tallied capacity { record with
      queue := { record.queue with items := rest }
      world
      left := record.left ++ [head] } where
  configured := tallied.configured
  bounded := by
    have bounded := tallied.bounded
    rw [items, List.length_cons] at bounded
    exact Nat.le_of_succ_le bounded
  order := by
    simp only [← tallied.order, items, List.append_assoc, List.singleton_append]

theorem perform (op : FifoOp α σ) : Tallied capacity (record.perform op) := by
  cases op with
  | push value =>
    by_cases room : record.queue.items.length < record.queue.capacity
    · simp only [FifoRecord.perform, BoundedFifo.push_of_lt room]
      exact tallied.enter value (tallied.configured ▸ room)
    · simp only [FifoRecord.perform, BoundedFifo.push_of_le (Nat.not_lt.1 room)]
      exact tallied
  | pop =>
    cases items : record.queue.items with
    | nil =>
      simp only [FifoRecord.perform, BoundedFifo.pop_of_nil items]
      exact tallied
    | cons head rest =>
      simp only [FifoRecord.perform, BoundedFifo.pop_of_cons items]
      exact tallied.leave items record.world
  | offer receiver =>
    have outcome := receiver.noting.outcome record.queue (record.world, record.left)
    simp only [FifoRecord.perform]
    generalize record.queue.offerHead receiver.noting.offer (record.world, record.left) = result
      at outcome
    cases outcome with
    | unasked empty => exact { tallied with }
    | @kept head rest next items kept =>
      have noted : next.2 = record.left ++ [head] := Receiver.noting_kept kept
      simp only [noted]
      exact tallied.leave items next.1
    | @back head rest next items back =>
      have noted : next.2 = record.left := Receiver.noting_back back
      simp only [noted]
      exact { tallied with }

theorem run (ops : List (FifoOp α σ)) : Tallied capacity (ops.foldl FifoRecord.perform record) := by
  induction ops generalizing record with
  | nil => exact tallied
  | cons op rest ih => exact ih (tallied.perform op)

end Tallied

/-- A queue that loses, doubles and reorders nothing within its capacity. -/
structure Lossless (capacity : Nat) (record : FifoRecord α σ) : Prop where
  configured : record.queue.capacity = capacity
  size_le : record.queue.size ≤ capacity
  order : record.left ++ record.queue.items = record.entered
  /-- A value is turned away exactly while the queue is full, -/
  full_iff : ∀ value, (∃ back, record.queue.push value = .error back) ↔
    record.queue.size = capacity
  /-- and then it comes back, and the queue stays as it is. -/
  refused : ∀ value back, record.queue.push value = .error back →
    back = value ∧ record.perform (.push value) = record
  /-- The oldest value can be taken, if there is one, and no other value leaves with it. -/
  popped : ∀ head queue, record.queue.pop = some (head, queue) ↔
    ∃ rest, record.queue.items = head :: rest ∧ queue = { record.queue with items := rest }
  /-- It can be offered as well, and leaves if the receiver keeps it. -/
  kept : ∀ (receiver : Receiver α σ) world queue world',
    record.queue.offerHead receiver.offer world = (true, queue, world') ↔
      ∃ head rest, record.queue.items = head :: rest ∧
        receiver.offer head world = (none, world') ∧ queue = { record.queue with items := rest }
  /-- What is not kept stays where it was. -/
  back : ∀ (receiver : Receiver α σ) world queue world',
    record.queue.offerHead receiver.offer world = (false, queue, world') → queue = record.queue ∧
      ∀ head ∈ record.queue.head?, receiver.offer head world = (some head, world')
  /-- Without a value, nothing is asked: whatever a receiver does, nothing is done. -/
  unasked : record.queue.isEmpty = true → ∀ {τ : Type} (offer : α → τ → Option α × τ) state,
    record.queue.offerHead offer state = (false, record.queue, state)

theorem Tallied.lossless (tallied : Tallied capacity record) : Lossless capacity record where
  configured := tallied.configured
  size_le := tallied.bounded
  order := tallied.order
  full_iff value := by
    have bounded := tallied.bounded
    rw [← tallied.configured] at bounded ⊢
    constructor
    · intro refused
      obtain ⟨back, refused⟩ := refused
      apply Nat.le_antisymm bounded
      apply Nat.not_lt.1
      intro room
      rw [BoundedFifo.push_of_lt room] at refused
      cases refused
    · intro full
      exact ⟨value, BoundedFifo.push_of_le (Nat.le_of_eq full.symm) value⟩
  refused value back refused := by
    by_cases room : record.queue.items.length < record.queue.capacity
    · rw [BoundedFifo.push_of_lt room] at refused
      cases refused
    · have answer := BoundedFifo.push_of_le (Nat.not_lt.1 room) value
      simp only [FifoRecord.perform, answer, and_true]
      rw [answer] at refused
      exact (Except.error.inj refused).symm
  popped head queue := BoundedFifo.pop_eq_some_iff
  kept receiver world queue world' := by
    constructor
    · intro offered
      have outcome := receiver.outcome record.queue world
      rw [offered] at outcome
      cases outcome with
      | kept items kept => exact ⟨_, _, items, kept, rfl⟩
    · rintro ⟨head, rest, items, kept, rfl⟩
      exact BoundedFifo.offerHead_of_kept items kept
  back receiver world queue world' offered := by
    have outcome := receiver.outcome record.queue world
    rw [offered] at outcome
    cases outcome with
    | unasked empty => exact ⟨rfl, by simp [BoundedFifo.head?, empty]⟩
    | back items back => exact ⟨rfl, by simp [BoundedFifo.head?, items, back]⟩
  unasked empty _ offer state :=
    BoundedFifo.offerHead_of_nil (List.isEmpty_iff.1 empty) offer state

/-- Whatever is done with a queue of whatever capacity, in whatever order, it loses, doubles and
reorders nothing. -/
theorem loses_nothing (capacity : Nat) (world : σ) (ops : List (FifoOp α σ)) :
    Lossless capacity (ops.foldl perform (opening capacity world)) :=
  ((opening_tallied capacity world).run ops).lossless

/-- Keeps as many values as the world says, and hands back what comes after them. -/
def countdown : Receiver Nat Nat where
  offer value world := if world = 0 then (some value, 0) else (none, world - 1)
  honest value back world returned := by
    by_cases none_left : world = 0
    · simpa [none_left, eq_comm] using returned
    · simp [none_left] at returned

/-- The third value is turned away, the first one is kept, and the second one comes back to the
front of the queue, where it is popped after the last one went in. -/
theorem loses_nothing_handed_back :
    Lossless 2 (List.foldl perform (opening 2 1) [.push 5, .push 6, .push 7, .offer countdown,
      .offer countdown, .push 8, .pop]) ∧
    List.foldl perform (opening 2 1) [.push 5, .push 6, .push 7, .offer countdown,
      .offer countdown, .push 8, .pop] =
        { queue := ⟨[8], 2⟩, world := 0, entered := [5, 6, 8], left := [5, 6] } :=
  ⟨loses_nothing 2 1 _, rfl⟩

end FifoRecord

end GatedMemory
