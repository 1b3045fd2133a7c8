import GatedMemory.Proofs.EventQueue
import GatedMemory.Proofs.EventSet

set_option autoImplicit false

namespace GatedMemory

/-- The answer to a request for the first event, given the queue once that has fired. -/
def EventQueue.takeAnswer {α : Type} (queue : EventQueue α) :
    Option (Nat × α × EventQueue α) → Except Fault (QueueAnswer α) × EventQueue α
  | some (_, _, next) => (.ok (.taken queue.pending.head?), next)
  | none => (.ok (.taken none), queue)

instance : EventStore EventQueue where
  empty := .empty
  size := EventQueue.size
  now := EventQueue.now
  perform
    | .schedule tick priority payload, queue =>
      scheduleAnswer queue (queue.schedule tick priority payload)
    | .cancel id, queue => (.ok (.cancelled (queue.isPending id)), queue.cancel id)
    | .takeNext, queue => queue.takeAnswer queue.takeNext
    | .takeDue limit, queue => queue.takeAnswer (queue.takeDue limit)
    | .nextTick, queue => (.ok (.upcoming queue.nextTick?), queue)
    | .moveTo tick, queue => (.ok .moved, queue.moveTo tick)

namespace EventQueue

variable {α : Type} {queue : EventQueue α} {set : EventSet α} {entry : EventEntry α}
  {rest : List (EventEntry α)}

structure Represents (queue : EventQueue α) (set : EventSet α) : Prop where
  sound : queue.Sound
  distinct : Set.InjOn EventEntry.id set.pending
  mem_pending : ∀ entry, entry ∈ set.pending ↔ entry ∈ queue.pending
  count : set.count = queue.nextId
  now : set.now = queue.now

theorem represents_empty : Represents (empty : EventQueue α) .empty where
  sound := sound_empty
  distinct := Set.injOn_empty _
  mem_pending _ := ⟨nofun, nofun⟩
  count := rfl
  now := rfl

namespace Represents

variable (represents : queue.Represents set)
include represents

theorem set_sound : set.Sound where
  distinct := represents.distinct
  numbered entry mem := by
    rw [represents.count]
    exact represents.sound.numbered entry ((represents.mem_pending entry).1 mem)
  future entry mem := by
    rw [represents.now]
    exact represents.sound.future entry ((represents.mem_pending entry).1 mem)

theorem size_eq : queue.size = set.pending.ncard := by
  have apart : queue.pending.Nodup :=
    represents.sound.sorted.imp fun before same => (same ▸ before).not_precedes (same ▸ before)
  have distinct : (queue.pending.map EventEntry.id).Nodup := by
    refine apart.map_on fun entry mem other mem' same => ?_
    exact represents.distinct ((represents.mem_pending _).2 mem) ((represents.mem_pending _).2 mem')
      same
  rw [represents.set_sound.ncard_eq distinct, List.length_map, size]
  intro id
  simp only [List.mem_map, represents.mem_pending]

theorem first (pending : queue.pending = entry :: rest) : set.First entry := by
  have before := (List.pairwise_cons.1 (pending ▸ represents.sound.sorted)).1
  have mem : entry ∈ set.pending :=
    (represents.mem_pending entry).2 (pending ▸ List.mem_cons_self)
  refine ⟨mem, fun other mem apart => ?_⟩
  have present := pending ▸ (represents.mem_pending other).1 mem
  rcases List.mem_cons.1 present with rfl | present
  · exact absurd rfl apart
  · exact before other present

theorem vacant (pending : queue.pending = []) : set.pending = ∅ := by
  refine Set.eq_empty_of_forall_notMem fun entry mem => ?_
  have present := pending ▸ (represents.mem_pending entry).1 mem
  exact List.not_mem_nil present

theorem fire (pending : queue.pending = entry :: rest) :
    Represents (queue.after entry rest) { set.remove entry with now := entry.tick } where
  sound := after_sound represents.sound pending
  distinct := represents.distinct.mono Set.sdiff_subset
  mem_pending other := by
    have before := (List.pairwise_cons.1 (pending ▸ represents.sound.sorted)).1
    show other ∈ set.pending ∧ other ≠ entry ↔ other ∈ rest
    rw [represents.mem_pending, pending, List.mem_cons]
    constructor
    · rintro ⟨same | later, apart⟩
      · exact absurd same apart
      · exact later
    · intro later
      refine ⟨.inr later, ?_⟩
      rintro rfl
      exact (before other later).not_precedes (before other later)
  count := represents.count
  now := rfl

theorem schedule {tick : Nat} (future : queue.now ≤ tick) (priority : Int) (payload : α) :
    Represents (queue.scheduled tick priority payload) (set.add tick priority payload) where
  sound := scheduled_sound represents.sound future
  distinct := (represents.set_sound.add (represents.now ▸ future) priority payload).distinct
  mem_pending other := by
    rw [mem_scheduled, ← represents.mem_pending, ← represents.count]
    exact Set.mem_insert_iff
  count := congrArg (· + 1) represents.count
  now := represents.now

theorem schedule_step (tick : Nat) (priority : Int) (payload : α) :
    ∃ next, set.Step (.schedule tick priority payload)
        (EventStore.perform (.schedule tick priority payload) queue).1 next ∧
      Represents (EventStore.perform (.schedule tick priority payload) queue).2 next := by
  have same := represents.now
  simp only [EventStore.perform]
  by_cases past : tick < queue.now
  · rw [schedule_of_lt past, ← same]
    exact ⟨set, .overdue (same ▸ past) priority payload, represents⟩
  · have future : queue.now ≤ tick := Nat.not_lt.1 past
    rw [schedule_eq future, ← represents.count]
    exact ⟨_, .scheduled (same ▸ future) priority payload,
      represents.schedule future priority payload⟩

theorem cancel_step (id : Nat) :
    ∃ next, set.Step (.cancel id) (.ok (.cancelled (queue.isPending id))) next ∧
      Represents (queue.cancel id) next := by
  have left (other : EventEntry α) :
      other ∈ (queue.cancel id).pending ↔ other ∈ set.pending ∧ other.id ≠ id := by
    rw [mem_cancel, represents.mem_pending]
  by_cases present : ∃ entry ∈ set.pending, entry.id = id
  · obtain ⟨entry, mem, rfl⟩ := present
    have pending : queue.isPending entry.id = true := by
      refine List.any_eq_true.2 ⟨entry, (represents.mem_pending entry).1 mem, beq_self_eq_true _⟩
    rw [pending]
    refine ⟨_, .cancelled mem rfl, ?_⟩
    exact { represents with
      sound := cancel_sound represents.sound _
      distinct := represents.distinct.mono Set.sdiff_subset
      mem_pending := by
        intro other
        rw [left]
        exact and_congr_right fun pending =>
          (represents.distinct.eq_iff pending mem).symm.not }
  · have absent : ∀ entry ∈ set.pending, entry.id ≠ id :=
      fun entry mem same => present ⟨entry, mem, same⟩
    have missing : queue.isPending id = false := by
      refine List.any_eq_false.2 fun entry mem => ?_
      simpa using absent entry ((represents.mem_pending entry).2 mem)
    rw [missing]
    refine ⟨set, .absent absent, ?_⟩
    exact { represents with
      sound := cancel_sound represents.sound _
      mem_pending := by
        intro other
        rw [left]
        exact ⟨fun mem => ⟨mem, absent other mem⟩, fun mem => mem.1⟩ }

theorem takeDue_step (limit : Nat) :
    ∃ next, set.Step (.takeDue limit) (queue.takeAnswer (queue.takeDue limit)).1 next ∧
      Represents (queue.takeAnswer (queue.takeDue limit)).2 next := by
  unfold takeDue
  cases pending : queue.pending with
  | nil =>
    have vacant : set.pending = ∅ := represents.vacant pending
    exact ⟨set, .early fun entry mem => absurd mem (vacant ▸ Set.notMem_empty entry), represents⟩
  | cons entry rest =>
    have first : set.First entry := represents.first pending
    by_cases due : entry.tick ≤ limit
    · simp only [due, ↓reduceIte, takeAnswer, pending, List.head?_cons]
      exact ⟨_, .due first due, represents.fire pending⟩
    · simp only [due, ↓reduceIte, takeAnswer]
      refine ⟨set, .early fun other mem => ?_, represents⟩
      exact Nat.lt_of_lt_of_le (Nat.not_le.1 due) (first.tick_le mem)

theorem takeNext_step :
    ∃ next, set.Step .takeNext (queue.takeAnswer queue.takeNext).1 next ∧
      Represents (queue.takeAnswer queue.takeNext).2 next := by
  cases pending : queue.pending with
  | nil =>
    have none_left : queue.takeNext = none := by simp [takeNext, nextTick?, pending]
    rw [none_left]
    exact ⟨set, .exhausted (represents.vacant pending), represents⟩
  | cons entry rest =>
    have first : set.First entry := represents.first pending
    have asked : queue.takeNext = queue.takeDue entry.tick := by
      simp [takeNext, nextTick?, pending]
    obtain ⟨next, step, represents'⟩ := represents.takeDue_step entry.tick
    rw [asked]
    exact ⟨next, step.next_of_due first, represents'⟩

theorem nextTick_step :
    ∃ next, set.Step .nextTick (.ok (.upcoming queue.nextTick?)) next ∧
      Represents queue next := by
  unfold nextTick?
  cases pending : queue.pending with
  | nil => exact ⟨set, .idle (represents.vacant pending), represents⟩
  | cons entry rest => exact ⟨set, .upcoming (represents.first pending), represents⟩

theorem moveTo {tick : Nat} (free : ∀ entry ∈ set.pending, tick ≤ entry.tick) :
    Represents (queue.moveTo tick) { set with now := max set.now tick } :=
  { represents with
    sound := by
      refine moveTo_sound represents.sound fun entry mem => ?_
      exact free entry ((represents.mem_pending entry).2 mem)
    now := congrArg (max · tick) represents.now }

end Represents

/-- Whatever is asked of the list is a step of the set of its events. -/
theorem refines : EventStore.Refines (@Represents α) where
  empty := represents_empty
  sound := Represents.set_sound
  size := Represents.size_eq
  now represents := represents.now.symm
  step {queue set op} represents allowed := by
    cases op with
    | schedule tick priority payload => exact represents.schedule_step tick priority payload
    | cancel id => exact represents.cancel_step id
    | takeNext => exact represents.takeNext_step
    | takeDue limit => exact represents.takeDue_step limit
    | nextTick => exact represents.nextTick_step
    | moveTo tick =>
      obtain ⟨_, upcoming, -⟩ := represents.nextTick_step
      have free := (EventStore.allows_moveTo_iff upcoming).1 allowed
      exact ⟨_, .moved free, represents.moveTo free⟩

end EventQueue

end GatedMemory
