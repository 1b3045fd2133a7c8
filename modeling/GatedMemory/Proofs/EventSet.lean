import GatedMemory.Event.Queue
import Mathlib.Data.List.ReduceOption
import Mathlib.Data.Set.Card

/-!
What is expected of an event queue, however it keeps its events. The reference model is the set of
the pending events, with the current tick. A queue refines it if each of its operations is a step of
the set that it stands for; then the queue answers as the model does, and no other way.
-/

set_option autoImplicit false

namespace GatedMemory

/-- What an event queue is asked to do. -/
inductive QueueOp (α : Type) where
  | schedule (tick : Nat) (priority : Int) (payload : α)
  | cancel (id : Nat)
  | takeNext
  | takeDue (limit : Nat)
  | nextTick
  | moveTo (tick : Nat)

inductive QueueAnswer (α : Type) where
  /-- The number of the event that was scheduled. -/
  | scheduled (id : Nat)
  /-- Whether the event was pending, and is now cancelled. -/
  | cancelled (pending : Bool)
  /-- The event that was taken. -/
  | taken (event? : Option (EventEntry α))
  /-- The tick of the next event. -/
  | upcoming (tick? : Option Nat)
  | moved

/-- What can be seen of one operation: the answer, then the number of pending events and the
tick. -/
structure QueueReport (α : Type) where
  answer : Except Fault (QueueAnswer α)
  size : Nat
  now : Nat

/-- The number of the event that left the queue, if one did. -/
def QueueOp.departed {α : Type} (op : QueueOp α) (report : QueueReport α) : Option Nat :=
  match op, report.answer with
  | .cancel id, .ok (.cancelled true) => some id
  | _, .ok (.taken (some entry)) => some entry.id
  | _, _ => none

/-- The numbers of the events that fired or were cancelled, one after the other. -/
def departures {α : Type} (ops : List (QueueOp α)) (reports : List (QueueReport α)) : List Nat :=
  (List.zipWith QueueOp.departed ops reports).reduceOption

/-- The pending events and the current tick. -/
structure EventSet (α : Type) where
  pending : Set (EventEntry α)
  /-- Events scheduled so far; the next one gets this number. -/
  count : Nat
  now : Nat

namespace EventSet

variable {α : Type} {set set' : EventSet α} {op : QueueOp α}
  {answer : Except Fault (QueueAnswer α)}

def empty : EventSet α :=
  { pending := ∅, count := 0, now := 0 }

/-- The event is pending, and it fires before all others. -/
structure First (set : EventSet α) (entry : EventEntry α) : Prop where
  mem : entry ∈ set.pending
  before : ∀ other ∈ set.pending, other ≠ entry → entry.Precedes other

def add (set : EventSet α) (tick : Nat) (priority : Int) (payload : α) : EventSet α :=
  { set with
    pending := insert ⟨tick, priority, set.count, payload⟩ set.pending
    count := set.count + 1 }

def remove (set : EventSet α) (entry : EventEntry α) : EventSet α :=
  { set with pending := set.pending \ {entry} }

/-- What an operation does to the set, and what the answer is. An event is not to be scheduled
before the current tick, and time is not to be moved beyond a pending event. -/
inductive Step (set : EventSet α) : QueueOp α → Except Fault (QueueAnswer α) → EventSet α → Prop
    where
  | scheduled {tick : Nat} (future : set.now ≤ tick) (priority : Int) (payload : α) :
    Step set (.schedule tick priority payload) (.ok (.scheduled set.count))
      (set.add tick priority payload)
  | overdue {tick : Nat} (past : tick < set.now) (priority : Int) (payload : α) :
    Step set (.schedule tick priority payload) (.error (.scheduledInPast tick set.now)) set
  | cancelled {entry : EventEntry α} {id : Nat} (mem : entry ∈ set.pending)
    (named : entry.id = id) : Step set (.cancel id) (.ok (.cancelled true)) (set.remove entry)
  | absent {id : Nat} (gone : ∀ entry ∈ set.pending, entry.id ≠ id) :
    Step set (.cancel id) (.ok (.cancelled false)) set
  | next {entry : EventEntry α} (first : set.First entry) :
    Step set .takeNext (.ok (.taken (some entry))) { set.remove entry with now := entry.tick }
  | exhausted (drained : set.pending = ∅) : Step set .takeNext (.ok (.taken none)) set
  | due {entry : EventEntry α} {limit : Nat} (first : set.First entry)
    (within : entry.tick ≤ limit) :
    Step set (.takeDue limit) (.ok (.taken (some entry)))
      { set.remove entry with now := entry.tick }
  | early {limit : Nat} (beyond : ∀ entry ∈ set.pending, limit < entry.tick) :
    Step set (.takeDue limit) (.ok (.taken none)) set
  | upcoming {entry : EventEntry α} (first : set.First entry) :
    Step set .nextTick (.ok (.upcoming (some entry.tick))) set
  | idle (drained : set.pending = ∅) : Step set .nextTick (.ok (.upcoming none)) set
  | moved {tick : Nat} (free : ∀ entry ∈ set.pending, tick ≤ entry.tick) :
    Step set (.moveTo tick) (.ok .moved) { set with now := max set.now tick }

/-- A sequence of operations, with a report on each. -/
inductive Runs : EventSet α → List (QueueOp α) → List (QueueReport α) → EventSet α → Prop where
  | done (set : EventSet α) : Runs set [] [] set
  | step {set next final : EventSet α} {op : QueueOp α} {ops : List (QueueOp α)}
    {answer : Except Fault (QueueAnswer α)} {reports : List (QueueReport α)}
    (step : set.Step op answer next) (runs : Runs next ops reports final) :
    Runs set (op :: ops) (⟨answer, next.pending.ncard, next.now⟩ :: reports) final

namespace First

variable {entry other : EventEntry α} (first : set.First entry)
include first

theorem unique (also : set.First other) : entry = other := by
  by_contra apart
  exact (first.before other also.mem (Ne.symm apart)).not_precedes
    (also.before entry first.mem apart)

theorem tick_le (mem : other ∈ set.pending) : entry.tick ≤ other.tick := by
  by_cases same : other = entry
  · rw [same]
  · have before := first.before other mem same
    unfold EventEntry.Precedes at before
    omega

end First

/-- The events have numbers of their own, and none is overdue. -/
structure Sound (set : EventSet α) : Prop where
  distinct : Set.InjOn EventEntry.id set.pending
  numbered : ∀ entry ∈ set.pending, entry.id < set.count
  future : ∀ entry ∈ set.pending, set.now ≤ entry.tick

theorem sound_empty : (empty : EventSet α).Sound where
  distinct := Set.injOn_empty _
  numbered := nofun
  future := nofun

namespace Sound

variable (sound : set.Sound)
include sound

theorem add {tick : Nat} (future : set.now ≤ tick) (priority : Int) (payload : α) :
    (set.add tick priority payload).Sound where
  distinct := by
    have fresh : (⟨tick, priority, set.count, payload⟩ : EventEntry α) ∉ set.pending :=
      fun member => Nat.lt_irrefl _ (sound.numbered _ member)
    refine (Set.injOn_insert fresh).2 ⟨sound.distinct, ?_⟩
    rintro ⟨entry, member, same⟩
    exact Nat.ne_of_lt (sound.numbered entry member) same
  numbered entry member := by
    rcases Set.mem_insert_iff.1 member with rfl | old
    · exact Nat.lt_succ_self _
    · exact Nat.lt_succ_of_lt (sound.numbered entry old)
  future entry member := by
    rcases Set.mem_insert_iff.1 member with rfl | old
    · exact future
    · exact sound.future entry old

theorem remove (entry : EventEntry α) : (set.remove entry).Sound where
  distinct := sound.distinct.mono Set.sdiff_subset
  numbered other member := sound.numbered other member.1
  future other member := sound.future other member.1

theorem fire {entry : EventEntry α} (first : set.First entry) :
    Sound { set.remove entry with now := entry.tick } :=
  { sound.remove entry with future := fun _ member => first.tick_le member.1 }

theorem move {tick : Nat} (free : ∀ entry ∈ set.pending, tick ≤ entry.tick) :
    Sound { set with now := max set.now tick } :=
  { sound with
    future := fun entry member => Nat.max_le.2 ⟨sound.future entry member, free entry member⟩ }

theorem step (step : set.Step op answer set') : set'.Sound := by
  cases step with
  | scheduled future => exact sound.add future _ _
  | cancelled => exact sound.remove _
  | next first | due first => exact sound.fire first
  | moved free => exact sound.move free
  | overdue | absent | exhausted | early | upcoming | idle => exact sound

theorem ncard_eq {ids : List Nat} (distinct : ids.Nodup)
    (names : ∀ id, id ∈ ids ↔ ∃ entry ∈ set.pending, entry.id = id) :
    set.pending.ncard = ids.length := by
  have image : EventEntry.id '' set.pending = {id | id ∈ ids} := by
    ext id
    exact (names id).symm
  calc set.pending.ncard
    _ = {id | id ∈ ids}.ncard := by rw [← image, sound.distinct.ncard_image]
    _ = ids.toFinset.card := by rw [← List.coe_toFinset, Set.ncard_coe_finset]
    _ = ids.length := List.toFinset_card_of_nodup distinct

theorem now_le (step : set.Step op answer set') : set.now ≤ set'.now := by
  cases step with
  | next first | due first => exact sound.future _ first.mem
  | moved => exact Nat.le_max_left _ _
  | scheduled | overdue | cancelled | absent | exhausted | early | upcoming | idle =>
    exact Nat.le_refl _

end Sound

/-- The model leaves no choice. -/
theorem Step.deterministic {set'' : EventSet α} {answer' : Except Fault (QueueAnswer α)}
    (sound : set.Sound) (step : set.Step op answer set') (also : set.Step op answer' set'') :
    answer = answer' ∧ set' = set'' := by
  cases step with
  | scheduled future =>
    cases also with
    | scheduled => exact ⟨rfl, rfl⟩
    | overdue past => exact absurd future (Nat.not_le.2 past)
  | overdue past =>
    cases also with
    | scheduled future => exact absurd future (Nat.not_le.2 past)
    | overdue => exact ⟨rfl, rfl⟩
  | cancelled mem named =>
    cases also with
    | cancelled mem' named' =>
      obtain rfl := sound.distinct mem mem' (named.trans named'.symm)
      exact ⟨rfl, rfl⟩
    | absent gone => exact absurd named (gone _ mem)
  | absent gone =>
    cases also with
    | cancelled mem named => exact absurd named (gone _ mem)
    | absent => exact ⟨rfl, rfl⟩
  | next first =>
    cases also with
    | next first' =>
      obtain rfl := first.unique first'
      exact ⟨rfl, rfl⟩
    | exhausted drained => exact absurd first.mem (drained ▸ Set.notMem_empty _)
  | exhausted drained =>
    cases also with
    | next first => exact absurd first.mem (drained ▸ Set.notMem_empty _)
    | exhausted => exact ⟨rfl, rfl⟩
  | due first within =>
    cases also with
    | due first' =>
      obtain rfl := first.unique first'
      exact ⟨rfl, rfl⟩
    | early beyond => exact absurd within (Nat.not_le.2 (beyond _ first.mem))
  | early beyond =>
    cases also with
    | due first within => exact absurd within (Nat.not_le.2 (beyond _ first.mem))
    | early => exact ⟨rfl, rfl⟩
  | upcoming first =>
    cases also with
    | upcoming first' =>
      obtain rfl := first.unique first'
      exact ⟨rfl, rfl⟩
    | idle drained => exact absurd first.mem (drained ▸ Set.notMem_empty _)
  | idle drained =>
    cases also with
    | upcoming first => exact absurd first.mem (drained ▸ Set.notMem_empty _)
    | idle => exact ⟨rfl, rfl⟩
  | moved =>
    cases also with
    | moved => exact ⟨rfl, rfl⟩

/-- To wait for the first event is to wait for the tick at which it is due. -/
theorem Step.next_of_due {entry : EventEntry α} (first : set.First entry)
    (step : set.Step (.takeDue entry.tick) answer set') : set.Step .takeNext answer set' := by
  cases step with
  | due first' => exact .next first'
  | early beyond => exact absurd (beyond entry first.mem) (Nat.lt_irrefl _)

namespace Runs

variable {final final' : EventSet α} {ops : List (QueueOp α)}
  {reports reports' : List (QueueReport α)} (runs : set.Runs ops reports final)
include runs

theorem sound (sound : set.Sound) : final.Sound := by
  induction runs with
  | done => exact sound
  | step step _ ih => exact ih (sound.step step)

theorem deterministic (sound : set.Sound) (also : set.Runs ops reports' final') :
    reports = reports' ∧ final = final' := by
  induction runs generalizing reports' with
  | done =>
    cases also
    exact ⟨rfl, rfl⟩
  | step step _ ih =>
    cases also with
    | step step' runs' =>
      obtain ⟨rfl, rfl⟩ := step.deterministic sound step'
      obtain ⟨rfl, rfl⟩ := ih (sound.step step) runs'
      exact ⟨rfl, rfl⟩

/-- Time does not move back, from one operation to any later one. -/
theorem now_sorted (sound : set.Sound) :
    (set.now :: reports.map QueueReport.now).Pairwise (· ≤ ·) := by
  induction runs with
  | done => exact List.pairwise_singleton _ _
  | @step set next _ _ _ _ _ step _ ih =>
    have later := ih (sound.step step)
    have onward : set.now ≤ next.now := sound.now_le step
    refine List.pairwise_cons.2 ⟨fun now member => ?_, later⟩
    rcases List.mem_cons.1 member with rfl | member
    · exact onward
    · exact Nat.le_trans onward ((List.pairwise_cons.1 later).1 now member)

end Runs

/-- The event with this number was scheduled, and is not pending any more. -/
def Gone (set : EventSet α) (id : Nat) : Prop :=
  id < set.count ∧ ∀ entry ∈ set.pending, entry.id ≠ id

theorem gone_remove {entry : EventEntry α} (sound : set.Sound) (mem : entry ∈ set.pending) :
    (set.remove entry).Gone entry.id :=
  ⟨sound.numbered entry mem, fun _ other same => other.2 (sound.distinct other.1 mem same)⟩

namespace Gone

variable {id : Nat} (gone : set.Gone id)
include gone

theorem step (step : set.Step op answer set') : set'.Gone id := by
  have removed (entry : EventEntry α) : (set.remove entry).Gone id :=
    ⟨gone.1, fun other member => gone.2 other member.1⟩
  cases step with
  | scheduled =>
    refine ⟨Nat.lt_succ_of_lt gone.1, fun entry member => ?_⟩
    rcases Set.mem_insert_iff.1 member with rfl | old
    · exact Nat.ne_of_gt gone.1
    · exact gone.2 entry old
  | cancelled | next | due => exact removed _
  | overdue | absent | exhausted | early | upcoming | idle | moved => exact gone

theorem departed_ne (step : set.Step op answer set') {size now : Nat} :
    op.departed ⟨answer, size, now⟩ ≠ some id := by
  cases step with
  | cancelled mem named =>
    rintro ⟨⟩
    exact gone.2 _ mem named
  | next first | due first =>
    rintro ⟨⟩
    exact gone.2 _ first.mem rfl
  | scheduled | overdue | absent | exhausted | early | upcoming | idle | moved => rintro ⟨⟩

theorem notMem_departures {final : EventSet α} {ops : List (QueueOp α)}
    {reports : List (QueueReport α)} (runs : set.Runs ops reports final) :
    id ∉ departures ops reports := by
  induction runs with
  | done => exact List.not_mem_nil
  | step step _ ih =>
    simp only [departures, List.reduceOption_mem_iff, List.zipWith_cons_cons, List.mem_cons] at ih ⊢
    rintro (departed | later)
    · exact gone.departed_ne step departed.symm
    · exact ih (gone.step step) later

end Gone

theorem Sound.gone_of_departed (sound : set.Sound) (step : set.Step op answer set')
    {id size now : Nat} (departed : op.departed ⟨answer, size, now⟩ = some id) : set'.Gone id := by
  cases step with
  | cancelled mem named =>
    obtain rfl := Option.some.inj departed
    exact named ▸ gone_remove sound mem
  | next first | due first =>
    obtain rfl := Option.some.inj departed
    exact gone_remove sound first.mem
  | scheduled | overdue | absent | exhausted | early | upcoming | idle | moved => cases departed

/-- No event fires twice, and none fires after it was cancelled. -/
theorem Runs.departures_nodup {final : EventSet α} {ops : List (QueueOp α)}
    {reports : List (QueueReport α)} (runs : set.Runs ops reports final) (sound : set.Sound) :
    (departures ops reports).Nodup := by
  induction runs with
  | done => exact List.nodup_nil
  | @step set next _ op ops answer reports step runs ih =>
    have later : (departures ops reports).Nodup := ih (sound.step step)
    unfold departures
    rw [List.zipWith_cons_cons]
    cases departed : op.departed ⟨answer, next.pending.ncard, next.now⟩ with
    | none => rwa [List.reduceOption_cons_of_none]
    | some id =>
      have gone : next.Gone id := sound.gone_of_departed step departed
      rw [List.reduceOption_cons_of_some]
      exact List.nodup_cons.2 ⟨gone.notMem_departures runs, later⟩

end EventSet

/-- The answer to a request to schedule an event. If it fails, the queue is as it was. -/
def scheduleAnswer {α σ : Type} (queue : σ) :
    Except Fault (Nat × σ) → Except Fault (QueueAnswer α) × σ
  | .ok (id, next) => (.ok (.scheduled id), next)
  | .error fault => (.error fault, queue)

/-- The operations of an event queue. -/
class EventStore (σ : Type → Type) where
  empty {α : Type} : σ α
  perform {α : Type} (op : QueueOp α) (queue : σ α) : Except Fault (QueueAnswer α) × σ α
  size {α : Type} (queue : σ α) : Nat
  now {α : Type} (queue : σ α) : Nat

namespace EventStore

variable {σ : Type → Type} [EventStore σ] {α : Type}

/-- The reports on a sequence of operations. -/
def reports (ops : List (QueueOp α)) (queue : σ α) : List (QueueReport α) :=
  match ops with
  | [] => []
  | op :: ops =>
    let (answer, next) := perform op queue
    ⟨answer, size next, now next⟩ :: reports ops next

def performAll (ops : List (QueueOp α)) (queue : σ α) : σ α :=
  match ops with
  | [] => queue
  | op :: ops => performAll ops (perform op queue).2

def upcoming? (queue : σ α) : Option Nat :=
  match (perform .nextTick queue).1 with
  | .ok (.upcoming tick?) => tick?
  | _ => none

/-- Time is not to be moved beyond the next event. -/
def Allows (queue : σ α) : QueueOp α → Prop
  | .moveTo tick => ∀ next ∈ upcoming? queue, tick ≤ next
  | _ => True

instance (queue : σ α) (op : QueueOp α) : Decidable (Allows queue op) :=
  match op with
  | .moveTo tick => inferInstanceAs (Decidable (∀ next ∈ upcoming? queue, tick ≤ next))
  | .schedule .. | .cancel _ | .takeNext | .takeDue _ | .nextTick =>
    inferInstanceAs (Decidable True)

/-- Each operation of the sequence is allowed once its turn comes. -/
def Permits (queue : σ α) : List (QueueOp α) → Prop
  | [] => True
  | op :: ops => Allows queue op ∧ Permits (perform op queue).2 ops

instance decidablePermits (queue : σ α) (ops : List (QueueOp α)) : Decidable (Permits queue ops) :=
  match ops with
  | [] => inferInstanceAs (Decidable True)
  | op :: ops =>
    have := decidablePermits (perform op queue).2 ops
    inferInstanceAs (Decidable (Allows queue op ∧ Permits (perform op queue).2 ops))

/-- If the queue names the tick of the first event, then time may be moved up to that event, and no
further. -/
theorem allows_moveTo_iff {queue : σ α} {set next : EventSet α} {tick : Nat}
    (step : set.Step .nextTick (perform .nextTick queue).1 next) :
    Allows queue (.moveTo tick) ↔ ∀ entry ∈ set.pending, tick ≤ entry.tick := by
  simp only [Allows, upcoming?]
  generalize (perform .nextTick queue).1 = answer at step
  cases step with
  | upcoming first =>
    constructor
    · intro soon entry mem
      exact Nat.le_trans (soon _ rfl) (first.tick_le mem)
    · rintro free _ ⟨⟩
      exact free _ first.mem
  | idle drained => simp [drained]

/-- Each operation of a queue is a step of the set that the queue represents. -/
structure Refines (Represents : σ α → EventSet α → Prop) : Prop where
  empty : Represents EventStore.empty .empty
  sound {queue : σ α} {set : EventSet α} (represents : Represents queue set) : set.Sound
  size {queue : σ α} {set : EventSet α} (represents : Represents queue set) :
    size queue = set.pending.ncard
  now {queue : σ α} {set : EventSet α} (represents : Represents queue set) :
    now queue = set.now
  step {queue : σ α} {set : EventSet α} {op : QueueOp α} (represents : Represents queue set)
    (allowed : Allows queue op) :
    ∃ next, set.Step op (perform op queue).1 next ∧ Represents (perform op queue).2 next

namespace Refines

variable {Represents : σ α → EventSet α → Prop} (refines : Refines Represents) {queue : σ α}
  {set : EventSet α} {ops : List (QueueOp α)}
include refines

theorem runs (represents : Represents queue set) (permitted : Permits queue ops) :
    ∃ final, set.Runs ops (reports ops queue) final ∧ Represents (performAll ops queue) final := by
  induction ops generalizing queue set with
  | nil => exact ⟨set, .done set, represents⟩
  | cons op ops ih =>
    obtain ⟨next, step, represents'⟩ := refines.step represents permitted.1
    obtain ⟨final, runs, last⟩ := ih represents' permitted.2
    refine ⟨final, ?_, last⟩
    show set.Runs (op :: ops)
      (⟨_, EventStore.size (perform op queue).2, EventStore.now (perform op queue).2⟩ :: _) final
    rw [refines.size represents', refines.now represents']
    exact .step step runs

/-- The queue answers as the set does, and no other way. -/
theorem runs_iff (represents : Represents queue set) (permitted : Permits queue ops)
    (answers : List (QueueReport α)) :
    (∃ final, set.Runs ops answers final) ↔ answers = reports ops queue := by
  obtain ⟨final, runs, -⟩ := refines.runs represents permitted
  constructor
  · rintro ⟨final', also⟩
    exact (also.deterministic (refines.sound represents) runs).1
  · rintro rfl
    exact ⟨final, runs⟩

/-- What the set can do, the queue allows. -/
theorem allows_of_step {op : QueueOp α} {answer : Except Fault (QueueAnswer α)} {next : EventSet α}
    (represents : Represents queue set) (step : set.Step op answer next) : Allows queue op := by
  cases step with
  | moved free =>
    have askable : Allows queue .nextTick := trivial
    obtain ⟨_, asked, -⟩ := refines.step represents askable
    exact (allows_moveTo_iff asked).2 free
  | scheduled | overdue | cancelled | absent | next | exhausted | due | early | upcoming | idle =>
    exact trivial

theorem permits_of_runs {answers : List (QueueReport α)} {final : EventSet α}
    (represents : Represents queue set) (runs : set.Runs ops answers final) :
    Permits queue ops := by
  induction runs generalizing queue with
  | done => exact trivial
  | step step _ ih =>
    have allowed := refines.allows_of_step represents step
    obtain ⟨_, step', represents'⟩ := refines.step represents allowed
    obtain ⟨-, rfl⟩ := step.deterministic (refines.sound represents) step'
    exact ⟨allowed, ih represents'⟩

/-- Two queues that represent the same set cannot be told apart. -/
theorem reports_eq {σ' : Type → Type} [EventStore σ'] {Represents' : σ' α → EventSet α → Prop}
    (refines' : Refines Represents') {queue' : σ' α} (represents : Represents queue set)
    (represents' : Represents' queue' set) (permitted : Permits queue ops) :
    reports ops queue = reports ops queue' := by
  obtain ⟨final, runs, -⟩ := refines.runs represents permitted
  have permitted' := refines'.permits_of_runs represents' runs
  exact (refines'.runs_iff represents' permitted' _).1 ⟨final, runs⟩

end Refines

end EventStore

end GatedMemory
