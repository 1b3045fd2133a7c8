import GatedMemory.Event.Repeating
import Mathlib.Data.List.Perm.Basic

set_option autoImplicit false

namespace GatedMemory

variable {α β : Type}

/-- What a view does not show can be inserted anywhere. -/
theorem filterMap_insertEntry_of_none {view : EventEntry α → Option β} {entry : EventEntry α}
    (hidden : view entry = none) (entries : List (EventEntry α)) :
    (insertEntry entry entries).filterMap view = entries.filterMap view := by
  induction entries with
  | nil => rw [insertEntry, List.filterMap_cons_none hidden]
  | cons head rest ih =>
    unfold insertEntry
    split
    · rw [List.filterMap_cons_none hidden]
    · rw [List.filterMap_cons, List.filterMap_cons, ih]

/-- An entry that fires after all that a view shows is shown last. -/
theorem filterMap_insertEntry_of_last {view : EventEntry α → Option β} {entry : EventEntry α}
    {entries : List (EventEntry α)} (sorted : entries.Pairwise EventEntry.Precedes)
    (last : ∀ other ∈ entries, entry.Precedes other → view other = none) :
    (insertEntry entry entries).filterMap view =
      entries.filterMap view ++ (view entry).toList := by
  induction entries with
  | nil => cases shown : view entry <;> simp [insertEntry, shown]
  | cons head rest ih =>
    obtain ⟨first, tail⟩ := List.pairwise_cons.1 sorted
    unfold insertEntry
    by_cases before : entry.Precedes head
    · have none_later : (head :: rest).filterMap view = [] := by
        refine List.filterMap_eq_nil_iff.2 fun other member => last other member ?_
        rcases List.mem_cons.1 member with rfl | member
        · exact before
        · exact before.trans (first other member)
      rw [if_pos before, List.filterMap_cons, none_later]
      cases view entry <;> rfl
    · have rest_last := ih tail fun other member => last other (List.mem_cons_of_mem _ member)
      rw [if_neg before, List.filterMap_cons, List.filterMap_cons, rest_last]
      cases view head <;> rfl

namespace EventQueue

variable {queue : EventQueue α} {tick : Nat}

def agenda (queue : EventQueue α) : List (Nat × α) :=
  queue.pending.map fun entry => (entry.tick, entry.payload)

/-- Events are listed in firing order under numbers of their own, and none is overdue. -/
structure Sound (queue : EventQueue α) : Prop where
  sorted : queue.pending.Pairwise EventEntry.Precedes
  numbered : ∀ entry ∈ queue.pending, entry.id < queue.nextId
  future : ∀ entry ∈ queue.pending, queue.now ≤ entry.tick

theorem sound_empty : (empty : EventQueue α).Sound where
  sorted := List.Pairwise.nil
  numbered := nofun
  future := nofun

def scheduled (queue : EventQueue α) (tick : Nat) (priority : Int) (payload : α) : EventQueue α :=
  { queue with
    pending := insertEntry ⟨tick, priority, queue.nextId, payload⟩ queue.pending
    nextId := queue.nextId + 1 }

theorem schedule_eq (future : queue.now ≤ tick) (priority : Int) (payload : α) :
    queue.schedule tick priority payload =
      .ok (queue.nextId, queue.scheduled tick priority payload) :=
  schedule_of_le future priority payload

variable {priority : Int} {payload : α}

theorem mem_scheduled {entry : EventEntry α} :
    entry ∈ (queue.scheduled tick priority payload).pending ↔
      entry = ⟨tick, priority, queue.nextId, payload⟩ ∨ entry ∈ queue.pending := by
  rw [scheduled, (insertEntry_perm _ _).mem_iff, List.mem_cons]

theorem agenda_scheduled :
    (queue.scheduled tick priority payload).agenda.Perm ((tick, payload) :: queue.agenda) :=
  (insertEntry_perm _ _).map _

theorem size_scheduled : (queue.scheduled tick priority payload).size = queue.size + 1 :=
  (insertEntry_perm _ _).length_eq

theorem scheduled_sound (sound : queue.Sound) (future : queue.now ≤ tick) :
    (queue.scheduled tick priority payload).Sound where
  sorted := insertEntry_pairwise sound.sorted sound.numbered
  numbered entry member := by
    rcases mem_scheduled.1 member with rfl | member
    · exact Nat.lt_succ_self _
    · exact Nat.lt_succ_of_lt (sound.numbered entry member)
  future entry member := by
    rcases mem_scheduled.1 member with rfl | member
    · exact future
    · exact sound.future entry member

/-- An event fires last that is due no earlier than all others and is no more urgent. -/
theorem agenda_scheduled_of_last (sound : queue.Sound)
    (last : ∀ other ∈ queue.pending, other.tick ≤ tick ∧ other.priority ≤ priority) :
    (queue.scheduled tick priority payload).agenda = queue.agenda ++ [(tick, payload)] := by
  simp only [agenda, scheduled, ← List.filterMap_eq_map']
  refine filterMap_insertEntry_of_last sound.sorted fun other member before => ?_
  have order := last other member
  have number := sound.numbered other member
  simp only [EventEntry.Precedes] at before
  omega

def after (queue : EventQueue α) (entry : EventEntry α) (rest : List (EventEntry α)) :
    EventQueue α :=
  { queue with pending := rest, now := entry.tick }

theorem takeNext_eq_some_iff {fired : Nat × α × EventQueue α} :
    queue.takeNext = some fired ↔ ∃ entry rest, queue.pending = entry :: rest ∧
      fired = (entry.tick, entry.payload, queue.after entry rest) := by
  unfold takeNext nextTick? takeDue
  cases pending : queue.pending with
  | nil => simp
  | cons entry rest => simp [after, eq_comm]

theorem takeDue_eq_some_iff {limit : Nat} {fired : Nat × α × EventQueue α} :
    queue.takeDue limit = some fired ↔ queue.takeNext = some fired ∧ fired.1 ≤ limit := by
  rw [takeNext_eq_some_iff]
  unfold takeDue
  cases pending : queue.pending with
  | nil => simp
  | cons entry rest =>
    simp only [Option.ite_none_right_eq_some, Option.some.injEq, List.cons.injEq]
    constructor
    · rintro ⟨due, rfl⟩
      exact ⟨⟨entry, rest, ⟨rfl, rfl⟩, rfl⟩, due⟩
    · rintro ⟨⟨_, _, ⟨rfl, rfl⟩, rfl⟩, due⟩
      exact ⟨due, rfl⟩

theorem after_sound {entry : EventEntry α} {rest : List (EventEntry α)} (sound : queue.Sound)
    (pending : queue.pending = entry :: rest) : (queue.after entry rest).Sound := by
  obtain ⟨first, sorted⟩ := List.pairwise_cons.1 (pending ▸ sound.sorted)
  refine ⟨sorted, fun other member => ?_, fun other member => ?_⟩
  · exact sound.numbered other (pending ▸ List.mem_cons_of_mem _ member)
  · have order := first other member
    change entry.tick ≤ other.tick
    unfold EventEntry.Precedes at order
    omega

theorem now_le_of_pending {entry : EventEntry α} {rest : List (EventEntry α)}
    (sound : queue.Sound) (pending : queue.pending = entry :: rest) : queue.now ≤ entry.tick :=
  sound.future entry (pending ▸ List.mem_cons_self)

theorem size_after {entry : EventEntry α} {rest : List (EventEntry α)}
    (pending : queue.pending = entry :: rest) :
    (queue.after entry rest).size + 1 = queue.size := by
  simp only [size, after, pending, List.length_cons]

theorem first_le {entry : EventEntry α} {rest : List (EventEntry α)} (sound : queue.Sound)
    (pending : queue.pending = entry :: rest) {event : Nat × α} (member : event ∈ queue.agenda) :
    entry.tick ≤ event.1 := by
  have first := (List.pairwise_cons.1 (pending ▸ sound.sorted)).1
  rw [agenda, pending] at member
  obtain ⟨other, present, rfl⟩ := List.mem_map.1 member
  rcases List.mem_cons.1 present with rfl | present
  · exact Nat.le_refl _
  · have order := first other present
    unfold EventEntry.Precedes at order
    omega

theorem cancel_sound (sound : queue.Sound) (id : Nat) : (queue.cancel id).Sound where
  sorted := sound.sorted.filter _
  numbered entry member := sound.numbered entry (List.mem_filter.1 member).1
  future entry member := sound.future entry (List.mem_filter.1 member).1

theorem mem_cancel {id : Nat} {entry : EventEntry α} :
    entry ∈ (queue.cancel id).pending ↔ entry ∈ queue.pending ∧ entry.id ≠ id := by
  simp only [cancel, List.mem_filter, bne_iff_ne]

theorem cancel_of_gone {id : Nat} (gone : ∀ entry ∈ queue.pending, entry.id ≠ id) :
    queue.cancel id = queue := by
  have same : queue.pending.filter (fun entry => entry.id != id) = queue.pending :=
    List.filter_eq_self.2 fun entry member => bne_iff_ne.2 (gone entry member)
  rw [cancel, same]

theorem moveTo_sound (sound : queue.Sound) (idle : ∀ entry ∈ queue.pending, tick ≤ entry.tick) :
    (queue.moveTo tick).Sound where
  sorted := sound.sorted
  numbered := sound.numbered
  future entry member := Nat.max_le.2 ⟨sound.future entry member, idle entry member⟩

end EventQueue

namespace EventQueue

theorem agenda_eq_cons {queue : EventQueue α} {entry : EventEntry α} {rest : List (EventEntry α)}
    (pending : queue.pending = entry :: rest) :
    queue.agenda = (entry.tick, entry.payload) :: (queue.after entry rest).agenda := by
  simp only [agenda, after, pending, List.map_cons]

/-- The queue is sound, and exactly these events are to come. -/
structure Awaits (queue : EventQueue α) (events : List (Nat × α)) : Prop where
  sound : queue.Sound
  agenda : queue.agenda.Perm events

theorem awaits_empty : (empty : EventQueue α).Awaits [] where
  sound := sound_empty
  agenda := .refl _

namespace Awaits

variable {queue : EventQueue α} {events : List (Nat × α)} (awaits : queue.Awaits events)
include awaits

theorem schedule {tick : Nat} (future : queue.now ≤ tick) (priority : Int) (payload : α) :
    (queue.scheduled tick priority payload).Awaits ((tick, payload) :: events) where
  sound := scheduled_sound awaits.sound future
  agenda := agenda_scheduled.trans (awaits.agenda.cons _)

theorem reorder {events' : List (Nat × α)} (same : events.Perm events') : queue.Awaits events' where
  sound := awaits.sound
  agenda := awaits.agenda.trans same

theorem size_eq : queue.size = events.length := by
  rw [← awaits.agenda.length_eq, EventQueue.agenda, List.length_map, size]

/-- Something fires by the time of any event. -/
theorem exists_first {event : Nat × α} (member : event ∈ events) {deadline : Nat}
    (soon : event.1 ≤ deadline) :
    ∃ entry rest, queue.pending = entry :: rest ∧ entry.tick ≤ deadline := by
  have present := awaits.agenda.mem_iff.2 member
  cases pending : queue.pending with
  | nil =>
    rw [EventQueue.agenda, pending] at present
    cases present
  | cons entry rest =>
    exact ⟨entry, rest, rfl, Nat.le_trans (first_le awaits.sound pending present) soon⟩

/-- Once nothing is due any more, all events lie beyond the limit. -/
theorem lt_of_idle {limit : Nat} (idle : queue.takeDue limit = none) {event : Nat × α}
    (member : event ∈ events) : limit < event.1 := by
  by_contra soon
  obtain ⟨entry, rest, pending, due⟩ := awaits.exists_first member (Nat.not_lt.1 soon)
  simp only [takeDue, pending, due, ↓reduceIte, reduceCtorEq] at idle

/-- Time moves on to a tick before which nothing is to fire. -/
theorem wait {tick : Nat} (idle : ∀ entry ∈ queue.pending, tick ≤ entry.tick) :
    (queue.moveTo tick).Awaits events where
  sound := moveTo_sound awaits.sound idle
  agenda := awaits.agenda

section Firing

variable {entry : EventEntry α} {rest : List (EventEntry α)}
  (pending : queue.pending = entry :: rest)
include pending

theorem now_le : queue.now ≤ entry.tick :=
  now_le_of_pending awaits.sound pending

theorem fires : (entry.tick, entry.payload) ∈ events := by
  rw [← awaits.agenda.mem_iff, agenda_eq_cons pending]
  exact List.mem_cons_self

theorem fire {left : List (Nat × α)} (split : events.Perm ((entry.tick, entry.payload) :: left)) :
    (queue.after entry rest).Awaits left where
  sound := after_sound awaits.sound pending
  agenda := by
    have agenda := awaits.agenda.trans split
    rw [agenda_eq_cons pending] at agenda
    exact agenda.cons_inv

end Firing

end Awaits

end EventQueue

namespace EventQueue

variable {rank : α → Int} {queue : EventQueue α}

/-- The priority of each event follows from what it is. -/
def Ranked (rank : α → Int) (queue : EventQueue α) : Prop :=
  ∀ entry ∈ queue.pending, entry.priority = rank entry.payload

theorem ranked_empty : (empty : EventQueue α).Ranked rank :=
  nofun

namespace Ranked

variable (ranked : queue.Ranked rank)
include ranked

theorem schedule {priority : Int} {payload : α} (same : priority = rank payload) (tick : Nat) :
    (queue.scheduled tick priority payload).Ranked rank := by
  intro entry member
  rcases mem_scheduled.1 member with rfl | member
  · exact same
  · exact ranked entry member

variable {entry : EventEntry α} {rest : List (EventEntry α)}
  (pending : queue.pending = entry :: rest)
include pending

theorem fire : (queue.after entry rest).Ranked rank :=
  fun other member => ranked other (pending ▸ List.mem_cons_of_mem _ member)

/-- The first event fires at an earlier tick than any event with a lower number for a priority. -/
theorem first_lt (sound : queue.Sound) {event : Nat × α} (member : event ∈ queue.agenda)
    (urgent : rank event.2 < rank entry.payload) : entry.tick < event.1 := by
  have first := (List.pairwise_cons.1 (pending ▸ sound.sorted)).1
  have own := ranked entry (pending ▸ List.mem_cons_self)
  rw [agenda, pending] at member
  obtain ⟨other, present, rfl⟩ := List.mem_map.1 member
  rcases List.mem_cons.1 present with rfl | present
  · exact absurd urgent (Int.lt_irrefl _)
  · have order := first other present
    have same := ranked other (pending ▸ List.mem_cons_of_mem _ present)
    simp only at urgent
    unfold EventEntry.Precedes at order
    omega

end Ranked

end EventQueue

namespace EventQueue

variable {queue next : EventQueue α}

def Distinct (queue : EventQueue α) : Prop :=
  (queue.pending.map EventEntry.id).Nodup

theorem distinct_empty : (empty : EventQueue α).Distinct :=
  List.nodup_nil

namespace Distinct

variable (distinct : queue.Distinct)
include distinct

theorem schedule (sound : queue.Sound) (tick : Nat) (priority : Int) (payload : α) :
    (queue.scheduled tick priority payload).Distinct := by
  refine ((insertEntry_perm _ _).map EventEntry.id).nodup_iff.2 (List.nodup_cons.2 ⟨?_, distinct⟩)
  intro member
  obtain ⟨entry, present, same⟩ := List.mem_map.1 member
  exact Nat.ne_of_lt (sound.numbered entry present) same

theorem cancel (id : Nat) : (queue.cancel id).Distinct :=
  distinct.sublist (List.filter_sublist.map _)

theorem fire {entry : EventEntry α} {rest : List (EventEntry α)}
    (pending : queue.pending = entry :: rest) :
    (queue.after entry rest).Distinct ∧ ∀ other ∈ rest, other.id ≠ entry.id := by
  rw [Distinct, pending, List.map_cons, List.nodup_cons] at distinct
  exact ⟨distinct.2, fun other member same => distinct.1 (List.mem_map.2 ⟨other, member, same⟩)⟩

/-- Cancelling takes exactly the event with the number. -/
theorem agenda_cancel {entry : EventEntry α} (member : entry ∈ queue.pending) :
    queue.agenda.Perm ((entry.tick, entry.payload) :: (queue.cancel entry.id).agenda) := by
  obtain ⟨before, later, pending⟩ := List.append_of_mem member
  rw [Distinct, pending, List.map_append, List.map_cons] at distinct
  obtain ⟨-, tail, apart⟩ := List.nodup_append.1 distinct
  have others : ∀ other ∈ before ++ later, (other.id != entry.id) = true := by
    intro other present
    rw [bne_iff_ne]
    intro same
    rcases List.mem_append.1 present with early | late
    · exact apart other.id (List.mem_map_of_mem early) entry.id List.mem_cons_self same
    · exact (List.nodup_cons.1 tail).1 (same ▸ List.mem_map_of_mem late)
  have left : (queue.cancel entry.id).pending = before ++ later := by
    have own : (entry.id != entry.id) = false := bne_self_eq_false entry.id
    simp only [EventQueue.cancel, pending, List.filter_append, List.filter_cons, own,
      Bool.false_eq_true, ↓reduceIte]
    rw [← List.filter_append]
    exact List.filter_eq_self.2 others
  rw [agenda, agenda, left, pending]
  exact List.perm_middle.map _

end Distinct

/-- What an operation has put into the queue, given the queue before it. -/
def entered (queue next : EventQueue α) : List (EventEntry α) :=
  next.pending.filter fun entry => queue.nextId ≤ entry.id

theorem entered_of_old (old : ∀ entry ∈ next.pending, entry.id < queue.nextId) :
    queue.entered next = [] := by
  refine List.filter_eq_nil_iff.2 fun entry member => ?_
  have earlier := old entry member
  simp only [decide_eq_true_eq]
  omega

theorem entered_scheduled (sound : queue.Sound) (tick : Nat) (priority : Int) (payload : α) :
    queue.entered (queue.scheduled tick priority payload) =
      [⟨tick, priority, queue.nextId, payload⟩] := by
  have old := entered_of_old sound.numbered
  have added : (queue.entered (queue.scheduled tick priority payload)).Perm
      (⟨tick, priority, queue.nextId, payload⟩ :: queue.entered queue) := by
    apply ((insertEntry_perm _ _).filter _).trans
    rw [List.filter_cons_of_pos (by simp)]
    exact .refl _
  rw [old] at added
  exact List.perm_singleton.1 added

/-- The events that an operation has added, given the queue before it. -/
def newcomers (queue next : EventQueue α) : List (Nat × α) :=
  (next.pending.filter fun entry => queue.nextId ≤ entry.id).map fun entry =>
    (entry.tick, entry.payload)

theorem newcomers_eq (queue next : EventQueue α) : queue.newcomers next =
    (queue.entered next).map fun entry => (entry.tick, entry.payload) :=
  rfl

theorem newcomers_of_old (old : ∀ entry ∈ next.pending, entry.id < queue.nextId) :
    queue.newcomers next = [] := by
  rw [newcomers_eq, entered_of_old old, List.map_nil]

theorem newcomers_scheduled (sound : queue.Sound) (tick : Nat) (priority : Int) (payload : α) :
    queue.newcomers (queue.scheduled tick priority payload) = [(tick, payload)] := by
  rw [newcomers_eq, entered_scheduled sound, List.map_singleton]

end EventQueue

namespace RepeatingEvent

variable {task : RepeatingEvent} {queue : EventQueue α} {tick : Nat}

def awaiting (task : RepeatingEvent) (queue : EventQueue α) : RepeatingEvent :=
  { task with pending := some queue.nextId }

theorem pending_of_canSchedule (free : task.canSchedule = true) : task.pending = none := by
  rw [canSchedule, Bool.and_eq_true] at free
  exact Option.isNone_iff_eq_none.1 free.2

/-- Once its occurrence has fired, a task that goes on can schedule the next one. -/
theorem canSchedule_occurred (going : task.stopped = false) :
    task.occurred.canSchedule = true := by
  simp only [canSchedule, occurred, going]
  rfl

theorem scheduleNext_of_free (free : task.canSchedule = true) (future : queue.now ≤ tick)
    (payload : α) : task.scheduleNext queue tick payload =
      .ok (task.awaiting queue, queue.scheduled tick task.priority payload) := by
  simp only [scheduleNext, free, EventQueue.schedule_eq future, ↓reduceIte]
  rfl

theorem scheduleNext_of_busy (busy : task.canSchedule = false) (payload : α) :
    task.scheduleNext queue tick payload = .ok (task, queue) := by
  simp only [scheduleNext, busy, Bool.false_eq_true, ↓reduceIte]
  rfl

/-- An occurrence of the task is scheduled, and it is the only event with this payload. -/
def Drives (task : RepeatingEvent) (queue : EventQueue α) (payload : α) : Prop :=
  ∃ id, task.pending = some id ∧ ∀ entry ∈ queue.pending, entry.payload = payload → entry.id = id

variable {payload : α}

theorem awaiting_drives (absent : ∀ event ∈ queue.agenda, event.2 ≠ payload) (priority : Int) :
    (task.awaiting queue).Drives (queue.scheduled tick priority payload) payload := by
  refine ⟨queue.nextId, rfl, fun entry member same => ?_⟩
  rcases EventQueue.mem_scheduled.1 member with rfl | old
  · rfl
  · exact absurd same (absent (entry.tick, entry.payload) (List.mem_map.2 ⟨entry, old, rfl⟩))

theorem length_halt_le (task : RepeatingEvent) (queue : EventQueue α) :
    (task.halt queue).2.pending.length ≤ queue.pending.length := by
  unfold halt
  cases task.pending with
  | none => exact Nat.le_refl _
  | some id => exact List.length_filter_le _ _

theorem now_halt (task : RepeatingEvent) (queue : EventQueue α) :
    (task.halt queue).2.now = queue.now := by
  unfold halt
  cases task.pending <;> rfl

theorem halt_sound (task : RepeatingEvent) (sound : queue.Sound) : (task.halt queue).2.Sound := by
  unfold halt
  cases task.pending with
  | none => exact sound
  | some id => exact EventQueue.cancel_sound sound id

/-- Whatever is scheduled with this payload is the pending occurrence of the task. -/
def Owns (task : RepeatingEvent) (queue : EventQueue α) (payload : α) : Prop :=
  ∀ entry ∈ queue.pending, entry.payload = payload → task.pending = some entry.id

theorem Owns.of_absent (absent : ∀ entry ∈ queue.pending, entry.payload ≠ payload) :
    task.Owns queue payload :=
  fun entry member same => absurd same (absent entry member)

theorem awaiting_owns (absent : ∀ entry ∈ queue.pending, entry.payload ≠ payload)
    (tick : Nat) (priority : Int) :
    (task.awaiting queue).Owns (queue.scheduled tick priority payload) payload := by
  intro entry member same
  rcases EventQueue.mem_scheduled.1 member with rfl | old
  · rfl
  · exact absurd same (absent entry old)

namespace Owns

variable (owns : task.Owns queue payload)
include owns

theorem schedule {other : α} (apart : other ≠ payload) (tick : Nat) (priority : Int) :
    task.Owns (queue.scheduled tick priority other) payload := by
  intro entry member same
  rcases EventQueue.mem_scheduled.1 member with rfl | old
  · exact absurd same apart
  · exact owns entry old same

theorem fire {entry : EventEntry α} {rest : List (EventEntry α)}
    (pending : queue.pending = entry :: rest) : task.Owns (queue.after entry rest) payload :=
  fun other member => owns other (pending ▸ List.mem_cons_of_mem _ member)

/-- Nothing is left of a task that has nothing pending. -/
theorem absent (free : task.pending = none) : ∀ entry ∈ queue.pending, entry.payload ≠ payload := by
  intro entry member same
  cases free.symm.trans (owns entry member same)

/-- When the occurrence of the task fires, no other is left. -/
theorem absent_of_fired {entry : EventEntry α} {rest : List (EventEntry α)}
    (distinct : queue.Distinct) (pending : queue.pending = entry :: rest)
    (own : entry.payload = payload) : ∀ other ∈ rest, other.payload ≠ payload := by
  intro other member same
  have first := owns entry (pending ▸ List.mem_cons_self) own
  have second := owns other (pending ▸ List.mem_cons_of_mem _ member) same
  exact (distinct.fire pending).2 other member (Option.some.inj (second.symm.trans first))

theorem absent_of_halt : ∀ entry ∈ (task.halt queue).2.pending, entry.payload ≠ payload := by
  intro entry member same
  cases pending : task.pending with
  | none =>
    simp only [halt, pending, Option.elim_none] at member
    cases pending.symm.trans (owns entry member same)
  | some id =>
    simp only [halt, pending, Option.elim_some] at member
    obtain ⟨present, other⟩ := EventQueue.mem_cancel.1 member
    exact other (Option.some.inj ((owns entry present same).symm.trans pending))

end Owns

namespace Drives

variable (drives : task.Drives queue payload)
include drives

theorem schedule {other : α} (apart : other ≠ payload) (tick : Nat) (priority : Int) :
    task.Drives (queue.scheduled tick priority other) payload := by
  obtain ⟨id, known, only⟩ := drives
  refine ⟨id, known, fun entry member same => ?_⟩
  rcases EventQueue.mem_scheduled.1 member with rfl | old
  · exact absurd same apart
  · exact only entry old same

theorem fire {entry : EventEntry α} {rest : List (EventEntry α)}
    (pending : queue.pending = entry :: rest) : task.Drives (queue.after entry rest) payload := by
  obtain ⟨id, known, only⟩ := drives
  exact ⟨id, known, fun other member => only other (pending ▸ List.mem_cons_of_mem _ member)⟩

theorem mem_halt {entry : EventEntry α} (member : entry ∈ (task.halt queue).2.pending) :
    entry ∈ queue.pending ∧ entry.payload ≠ payload := by
  obtain ⟨id, known, only⟩ := drives
  simp only [halt, known, Option.elim_some] at member
  obtain ⟨present, other⟩ := EventQueue.mem_cancel.1 member
  exact ⟨present, fun same => other (only entry present same)⟩

end Drives

end RepeatingEvent

end GatedMemory
