import GatedMemory.Event.LazyQueue
import GatedMemory.Proofs.SortedQueue

set_option autoImplicit false

namespace GatedMemory

open EventStore (reports performAll Permits)

instance : EventStore LazyQueue where
  empty := .empty
  size := LazyQueue.size
  now := LazyQueue.now
  perform
    | .schedule tick priority payload, queue =>
      scheduleAnswer queue (queue.schedule tick priority payload)
    | .cancel id, queue =>
      let (cancelled, next) := queue.cancel id
      (.ok (.cancelled cancelled), next)
    | .takeNext, queue =>
      let (event?, next) := queue.takeNext
      (.ok (.taken event?), next)
    | .takeDue limit, queue =>
      let (event?, next) := queue.takeDue limit
      (.ok (.taken event?), next)
    | .nextTick, queue =>
      let (tick?, next) := queue.nextTick?
      (.ok (.upcoming tick?), next)
    | .moveTo tick, queue => (.ok .moved, queue.moveTo tick)

namespace LazyQueue

variable {α : Type} {queue : LazyQueue α} {set : EventSet α} {entry : EventEntry α}

/-- The live events of the heap are the pending ones. Other events may be left in the heap. -/
structure Represents (queue : LazyQueue α) (set : EventSet α) : Prop where
  sound : set.Sound
  ordered : queue.heap.Ordered
  mem_pending : ∀ entry, entry ∈ set.pending ↔ entry ∈ queue.heap.toList ∧ entry.id ∈ queue.live
  listed : ∀ id ∈ queue.live, ∃ entry ∈ set.pending, entry.id = id
  distinct : queue.live.Nodup
  /-- No number is given again, not even that of a cancelled event. -/
  numbered : ∀ entry ∈ queue.heap.toList, entry.id < queue.nextId
  count : set.count = queue.nextId
  now : set.now = queue.now

theorem represents_empty : Represents (empty : LazyQueue α) .empty where
  sound := EventSet.sound_empty
  ordered := trivial
  mem_pending _ := ⟨nofun, nofun⟩
  listed := nofun
  distinct := List.nodup_nil
  numbered := nofun
  count := rfl
  now := rfl

namespace Represents

variable (represents : queue.Represents set)
include represents

theorem listed_iff (id : Nat) : id ∈ queue.live ↔ ∃ entry ∈ set.pending, entry.id = id := by
  constructor
  · exact represents.listed id
  · rintro ⟨entry, mem, rfl⟩
    exact ((represents.mem_pending entry).1 mem).2

theorem size_eq : queue.size = set.pending.ncard :=
  (represents.sound.ncard_eq represents.distinct represents.listed_iff).symm

theorem first (top : queue.heap.top? = some entry) (live : entry.id ∈ queue.live) :
    set.First entry := by
  obtain ⟨left, right, heap⟩ := EventHeap.top?_eq_some_iff.1 top
  have held (other : EventEntry α) :
      other ∈ queue.heap.toList ↔ other = entry ∨ other ∈ left.toList ++ right.toList := by
    rw [heap, EventHeap.toList, List.mem_cons]
  have below := (EventHeap.ordered_node.1 (heap ▸ represents.ordered)).1
  have mem : entry ∈ set.pending :=
    (represents.mem_pending entry).2 ⟨(held entry).2 (.inl rfl), live⟩
  refine ⟨mem, fun other pending apart => ?_⟩
  have numbers : entry.id ≠ other.id :=
    fun same => apart (represents.sound.distinct pending mem same.symm)
  rcases (held other).1 ((represents.mem_pending other).1 pending).1 with same | inside
  · exact absurd same apart
  · exact EventEntry.precedes_of_not_precedes numbers (below other inside)

theorem vacant (top : queue.heap.top? = none) : set.pending = ∅ := by
  have heap : queue.heap = .empty := EventHeap.top?_eq_none_iff.1 top
  refine Set.eq_empty_of_forall_notMem fun entry mem => ?_
  have inside := ((represents.mem_pending entry).1 mem).1
  rw [heap] at inside
  cases inside

theorem drop (top : queue.heap.top? = some entry) (cancelled : entry.id ∉ queue.live) :
    Represents { queue with heap := queue.heap.pop } set := by
  obtain ⟨left, right, heap⟩ := EventHeap.top?_eq_some_iff.1 top
  have held (other : EventEntry α) :
      other ∈ queue.heap.toList ↔ other = entry ∨ other ∈ queue.heap.pop.toList := by
    rw [heap, EventHeap.pop, EventHeap.toList, List.mem_cons,
      (EventHeap.merge_perm left right).mem_iff]
  obtain ⟨-, leftOrdered, rightOrdered⟩ := EventHeap.ordered_node.1 (heap ▸ represents.ordered)
  exact { represents with
    ordered := by
      rw [heap]
      exact EventHeap.merge_ordered leftOrdered rightOrdered
    mem_pending := by
      intro other
      rw [represents.mem_pending, held]
      constructor
      · rintro ⟨rfl | inside, live⟩
        · exact absurd live cancelled
        · exact ⟨inside, live⟩
      · rintro ⟨inside, live⟩
        exact ⟨.inr inside, live⟩
    numbered := fun other inside => represents.numbered other ((held other).2 (.inr inside)) }

theorem trimmed : Represents queue.trimmed set := by
  obtain ⟨heap, live, nextId, now⟩ := queue
  show Represents { heap := heap.discard live, live, nextId, now } set
  fun_induction EventHeap.discard live heap with
  | case1 => exact represents
  | case2 => exact represents
  | case3 first left right cancelled ih => exact ih (represents.drop rfl cancelled)

end Represents

theorem live_of_top (top : queue.trimmed.heap.top? = some entry) : entry.id ∈ queue.live := by
  obtain ⟨heap, live, nextId, now⟩ := queue
  change (heap.discard live).top? = some entry at top
  show entry.id ∈ live
  fun_induction EventHeap.discard live heap with
  | case1 => cases top
  | case2 first left right alive =>
    obtain rfl : first = entry := Option.some.inj top
    exact alive
  | case3 first left right _ ih => exact ih top

namespace Represents

variable (represents : queue.Represents set)
include represents

/-- An event is pending no more once its number is off the list. -/
theorem strike (mem : entry ∈ set.pending) :
    Represents { queue with live := queue.live.erase entry.id } (set.remove entry) := by
  have struck (id : Nat) : id ∈ queue.live.erase entry.id ↔ id ≠ entry.id ∧ id ∈ queue.live :=
    represents.distinct.mem_erase_iff
  have apart {other : EventEntry α} (pending : other ∈ set.pending) :
      other ≠ entry ↔ other.id ≠ entry.id :=
    (represents.sound.distinct.eq_iff pending mem).symm.not
  exact { represents with
    sound := represents.sound.remove entry
    mem_pending := by
      intro other
      rw [struck]
      constructor
      · rintro ⟨pending, other_ne⟩
        obtain ⟨inside, live⟩ := (represents.mem_pending other).1 pending
        exact ⟨inside, (apart pending).1 other_ne, live⟩
      · rintro ⟨inside, id_ne, live⟩
        have pending := (represents.mem_pending other).2 ⟨inside, live⟩
        exact ⟨pending, (apart pending).2 id_ne⟩
    listed := by
      intro id live
      obtain ⟨id_ne, live⟩ := (struck id).1 live
      obtain ⟨other, pending, rfl⟩ := represents.listed id live
      exact ⟨other, ⟨pending, (apart pending).2 id_ne⟩, rfl⟩
    distinct := represents.distinct.erase _ }

/-- The event at the top fires: first it is struck off, then it is taken out of the heap. -/
theorem fire (top : queue.heap.top? = some entry) (live : entry.id ∈ queue.live) :
    Represents (queue.fire entry) { set.remove entry with now := entry.tick } := by
  have first := represents.first top live
  have struck := represents.strike first.mem
  have cancelled : entry.id ∉ queue.live.erase entry.id := represents.distinct.not_mem_erase
  exact { struck.drop top cancelled with
    sound := represents.sound.fire first
    now := rfl }

theorem schedule {tick : Nat} (future : queue.now ≤ tick) (priority : Int) (payload : α) :
    Represents { queue with
      heap := queue.heap.push { tick, priority, id := queue.nextId, payload }
      live := queue.nextId :: queue.live
      nextId := queue.nextId + 1 } (set.add tick priority payload) := by
  let new : EventEntry α := ⟨tick, priority, queue.nextId, payload⟩
  have added (other : EventEntry α) :
      other ∈ (set.add tick priority payload).pending ↔ other = new ∨ other ∈ set.pending := by
    rw [EventSet.add, represents.count]
    exact Set.mem_insert_iff
  have held (other : EventEntry α) :
      other ∈ (queue.heap.push new).toList ↔ other = new ∨ other ∈ queue.heap.toList := by
    rw [(EventHeap.push_perm new queue.heap).mem_iff, List.mem_cons]
  have fresh : queue.nextId ∉ queue.live := by
    intro live
    obtain ⟨other, pending, same⟩ := represents.listed _ live
    have inside := ((represents.mem_pending other).1 pending).1
    exact Nat.ne_of_lt (represents.numbered other inside) same
  exact {
    sound := represents.sound.add (represents.now ▸ future) priority payload
    ordered := EventHeap.push_ordered represents.ordered new
    mem_pending := by
      intro other
      rw [added, represents.mem_pending, held, List.mem_cons]
      constructor
      · rintro (rfl | ⟨inside, live⟩)
        · exact ⟨.inl rfl, .inl rfl⟩
        · exact ⟨.inr inside, .inr live⟩
      · rintro ⟨rfl | inside, named | live⟩
        · exact .inl rfl
        · exact .inl rfl
        · exact absurd named (Nat.ne_of_lt (represents.numbered other inside))
        · exact .inr ⟨inside, live⟩
    listed := by
      intro id live
      rcases List.mem_cons.1 live with rfl | live
      · exact ⟨new, (added new).2 (.inl rfl), rfl⟩
      · obtain ⟨other, pending, named⟩ := represents.listed id live
        exact ⟨other, (added other).2 (.inr pending), named⟩
    distinct := List.nodup_cons.2 ⟨fresh, represents.distinct⟩
    numbered := by
      intro other inside
      rcases (held other).1 inside with rfl | inside
      · exact Nat.lt_succ_self _
      · exact Nat.lt_succ_of_lt (represents.numbered other inside)
    count := congrArg (· + 1) represents.count
    now := represents.now }

theorem schedule_step (tick : Nat) (priority : Int) (payload : α) :
    ∃ next, set.Step (.schedule tick priority payload)
        (EventStore.perform (.schedule tick priority payload) queue).1 next ∧
      Represents (EventStore.perform (.schedule tick priority payload) queue).2 next := by
  have same := represents.now
  simp only [EventStore.perform, LazyQueue.schedule]
  by_cases past : tick < queue.now
  · rw [if_pos past, ← same]
    exact ⟨set, .overdue (same ▸ past) priority payload, represents⟩
  · have future : queue.now ≤ tick := Nat.not_lt.1 past
    rw [if_neg past, ← represents.count]
    exact ⟨_, .scheduled (same ▸ future) priority payload,
      represents.count ▸ represents.schedule future priority payload⟩

theorem cancel_step (id : Nat) :
    ∃ next, set.Step (.cancel id) (.ok (.cancelled (queue.cancel id).1)) next ∧
      Represents (queue.cancel id).2 next := by
  by_cases live : id ∈ queue.live
  · obtain ⟨entry, mem, rfl⟩ := represents.listed id live
    rw [cancel, List.contains_iff_mem.2 live]
    exact ⟨_, .cancelled mem rfl, represents.strike mem⟩
  · have absent : ∀ entry ∈ set.pending, entry.id ≠ id := by
      rintro entry mem rfl
      exact live ((represents.mem_pending entry).1 mem).2
    have unlisted : queue.live.contains id = false := by simpa using live
    rw [cancel, unlisted, List.erase_of_not_mem live]
    exact ⟨set, .absent absent, represents⟩

theorem takeDue_step (limit : Nat) :
    ∃ next, set.Step (.takeDue limit) (.ok (.taken (queue.takeDue limit).1)) next ∧
      Represents (queue.takeDue limit).2 next := by
  have trimmed := represents.trimmed
  unfold takeDue
  cases top : queue.trimmed.heap.top? with
  | none =>
    have vacant : set.pending = ∅ := trimmed.vacant top
    exact ⟨set, .early fun entry mem => absurd mem (vacant ▸ Set.notMem_empty entry), trimmed⟩
  | some entry =>
    have live : entry.id ∈ queue.live := live_of_top top
    have first : set.First entry := trimmed.first top live
    by_cases due : entry.tick ≤ limit
    · simp only [due, ↓reduceIte]
      exact ⟨_, .due first due, trimmed.fire top live⟩
    · simp only [due, ↓reduceIte]
      refine ⟨set, .early fun other mem => ?_, trimmed⟩
      exact Nat.lt_of_lt_of_le (Nat.not_le.1 due) (first.tick_le mem)

theorem takeNext_step :
    ∃ next, set.Step .takeNext (.ok (.taken queue.takeNext.1)) next ∧
      Represents queue.takeNext.2 next := by
  have trimmed := represents.trimmed
  unfold takeNext nextTick?
  cases top : queue.trimmed.heap.top? with
  | none => exact ⟨set, .exhausted (trimmed.vacant top), trimmed⟩
  | some entry =>
    have live : entry.id ∈ queue.live := live_of_top top
    have first : set.First entry := trimmed.first top live
    obtain ⟨next, step, represents'⟩ := trimmed.takeDue_step entry.tick
    exact ⟨next, step.next_of_due first, represents'⟩

theorem nextTick_step :
    ∃ next, set.Step .nextTick (.ok (.upcoming queue.nextTick?.1)) next ∧
      Represents queue.nextTick?.2 next := by
  have trimmed := represents.trimmed
  unfold nextTick?
  cases top : queue.trimmed.heap.top? with
  | none => exact ⟨set, .idle (trimmed.vacant top), trimmed⟩
  | some entry =>
    have live : entry.id ∈ queue.live := live_of_top top
    exact ⟨set, .upcoming (trimmed.first top live), trimmed⟩

theorem moveTo {tick : Nat} (free : ∀ entry ∈ set.pending, tick ≤ entry.tick) :
    Represents (queue.moveTo tick) { set with now := max set.now tick } :=
  { represents with
    sound := represents.sound.move free
    now := congrArg (max · tick) represents.now }

end Represents

/-- Whatever is asked of the heap is a step of the set of its live events. -/
theorem refines : EventStore.Refines (@Represents α) where
  empty := represents_empty
  sound := Represents.sound
  size := Represents.size_eq
  now represents := represents.now.symm
  step {queue set op} represents allowed := by
    cases op with
    | schedule tick priority payload => exact represents.schedule_step tick priority payload
    | cancel id => exact represents.cancel_step id
    | takeNext => exact represents.takeNext_step
    | takeDue limit => exact represents.takeDue_step limit
    | nextTick => exact represents.nextTick_step
    | moveTo tick =>
      obtain ⟨_, upcoming, -⟩ := represents.nextTick_step
      have free := (EventStore.allows_moveTo_iff upcoming).1 allowed
      exact ⟨_, .moved free, represents.moveTo free⟩

variable {ops : List (QueueOp α)}

/-- The heap and the sorted list cannot be told apart. -/
theorem reports_eq_sorted (permitted : Permits (empty : LazyQueue α) ops) :
    reports ops (empty : LazyQueue α) = reports ops (EventQueue.empty : EventQueue α) :=
  refines.reports_eq EventQueue.refines refines.empty EventQueue.refines.empty permitted

/-- The queue answers as the set of its pending events does, and no other way. No event fires twice
or after it was cancelled, time does not move back, and no pending event is overdue. -/
theorem behaves_as_eventSet (permitted : Permits (empty : LazyQueue α) ops) :
    (∀ answers, (∃ final, EventSet.empty.Runs ops answers final) ↔
      answers = reports ops (empty : LazyQueue α)) ∧
    (departures ops (reports ops (empty : LazyQueue α))).Nodup ∧
    ((reports ops (empty : LazyQueue α)).map QueueReport.now).Pairwise (· ≤ ·) ∧
    ∀ entry ∈ (performAll ops (empty : LazyQueue α)).heap.toList,
      entry.id ∈ (performAll ops (empty : LazyQueue α)).live →
        (performAll ops (empty : LazyQueue α)).now ≤ entry.tick := by
  obtain ⟨final, runs, represents⟩ := refines.runs refines.empty permitted
  refine ⟨refines.runs_iff refines.empty permitted, ?_, ?_, ?_⟩
  · exact runs.departures_nodup EventSet.sound_empty
  · exact (List.pairwise_cons.1 (runs.now_sorted EventSet.sound_empty)).2
  · intro entry inside live
    have pending := (represents.mem_pending entry).2 ⟨inside, live⟩
    exact represents.now ▸ represents.sound.future entry pending

/-- Events are cancelled at the top of the heap and below it, and some share tick and priority. -/
def cancelling : List (QueueOp Nat) :=
  [.schedule 5 0 10, .schedule 5 (-3) 11, .schedule 5 (-3) 12, .schedule 2 50 13,
    .schedule 9 100 14, .cancel 3, .nextTick, .cancel 2, .cancel 2, .takeDue 4, .moveTo 5,
    .schedule 4 0 15, .takeNext, .takeNext, .cancel 0, .takeDue 20, .takeNext]

theorem cancelling_behaves_as_eventSet :
    Permits (empty : LazyQueue Nat) cancelling ∧
    departures cancelling (reports cancelling (empty : LazyQueue Nat)) = [3, 2, 1, 0, 4] ∧
    ∀ answers, (∃ final, EventSet.empty.Runs cancelling answers final) ↔
      answers = reports cancelling (empty : LazyQueue Nat) := by
  have permitted : Permits (empty : LazyQueue Nat) cancelling := by decide +kernel
  exact ⟨permitted, by decide +kernel, (behaves_as_eventSet permitted).1⟩

end LazyQueue

end GatedMemory
