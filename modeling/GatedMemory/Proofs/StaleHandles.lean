import GatedMemory.Proofs.EventQueue
import GatedMemory.Proofs.Outcome
import GatedMemory.Proofs.Recorded
import GatedMemory.Proofs.SlotTable
import Mathlib.Data.List.Range

/-!
What becomes of a handle once its slot was given back. The generation of a place is the number of
times that it was given back, modulo the size of a machine word; so the handle stays without effect
until its place was given back as often as there are generations, and only then it can name a slot
again.
-/

set_option autoImplicit false

namespace GatedMemory

/-- What can be done with a table of markers and the queue of the ends of their waits. -/
inductive MarkerOp where
  | reserve
  /-- Schedules the end of the marker's wait. -/
  | start (id : SlotId) (tick : Nat)
  /-- The wait of the marker is over. -/
  | complete (id : SlotId)
  | release (id : SlotId)
  /-- The next scheduled end of a wait takes place. -/
  | fire

/-- A table of markers, the ends of their waits, and the handles whose slots were given back. -/
structure Markers where
  table : SlotTable
  events : EventQueue SlotId
  /-- Oldest first. -/
  returned : List SlotId

namespace Markers

def opening : Markers :=
  { table := .empty, events := .empty, returned := [] }

def perform (markers : Markers) : MarkerOp → Except Fault Markers
  | .reserve => .ok { markers with table := markers.table.acquire.2 }
  | .start id tick => do
    let (_, events) ← markers.events.schedule tick Priority.standard id
    return { markers with events }
  | .complete id => .ok { markers with table := (markers.table.finish id).2 }
  | .release id =>
    if (markers.table.find? id).isSome then
      .ok { markers with
        table := markers.table.release id
        returned := markers.returned ++ [id] }
    else .ok { markers with table := markers.table.release id }
  | .fire =>
    match markers.events.takeNext with
    | none => .ok markers
    | some (_, id, events) => .ok { markers with table := (markers.table.finish id).2, events }

/-- A wait was to end before the current tick. -/
def Late (fault : Fault) : Prop :=
  ∃ tick now, fault = .scheduledInPast tick now

def returns (index : UInt32) (handles : List SlotId) : Nat :=
  handles.countP fun id => id.index == index

theorem returns_append (index : UInt32) (first second : List SlotId) :
    returns index (first ++ second) = returns index first + returns index second :=
  List.countP_append

theorem returns_singleton (index : UInt32) (id : SlotId) :
    returns index [id] = if id.index = index then 1 else 0 := by
  by_cases here : id.index = index <;> simp [returns, here]

/-- The generation of a place, and that of each handle when it was given back, is the number of
times that the place had been given back by then. -/
structure Counted (markers : Markers) : Prop where
  current : ∀ index, markers.table.generationAt index =
    UInt32.ofNat (returns index markers.returned)
  handles : ∀ before id after, markers.returned = before ++ id :: after →
    id.generation = UInt32.ofNat (returns id.index before)

theorem opening_counted : opening.Counted where
  current index := by
    simp only [opening, SlotTable.empty, SlotTable.generationAt]
    rfl
  handles before id after split := by
    have empty : [] = before ++ id :: after := split
    simp at empty

variable {markers : Markers}

namespace Counted

variable (counted : markers.Counted)
include counted

theorem congr {table : SlotTable} (events : EventQueue SlotId)
    (same : ∀ index, table.generationAt index = markers.table.generationAt index) :
    Counted { markers with table, events } :=
  { current := fun index => (same index).trans (counted.current index), handles := counted.handles }

theorem release {id : SlotId} (live : (markers.table.find? id).isSome = true) :
    Counted { markers with
      table := markers.table.release id
      returned := markers.returned ++ [id] } where
  current index := by
    show (markers.table.release id).generationAt index = _
    rw [SlotTable.generationAt_release live, counted.current, returns_append, returns_singleton,
      UInt32.ofNat_add]
    by_cases here : id.index = index
    · simp only [here, ↓reduceIte]
      rfl
    · simp only [here, ↓reduceIte]
      rfl
  handles before other after split := by
    rcases concat_eq_append_cons split with ⟨rfl, rfl, rfl⟩ | ⟨rest, rfl, earlier⟩
    · rw [← SlotTable.generationAt_of_live live, counted.current]
    · exact counted.handles before other rest earlier

theorem perform (op : MarkerOp) : Gives Late (markers.perform op) Counted := by
  cases op with
  | reserve => exact counted.congr _ SlotTable.generationAt_acquire
  | start id tick =>
    by_cases late : tick < markers.events.now
    · simp only [Markers.perform, EventQueue.schedule_of_lt late]
      exact ⟨tick, markers.events.now, rfl⟩
    · simp only [Markers.perform, EventQueue.schedule_of_le (Nat.not_lt.1 late)]
      exact counted.congr _ fun _ => rfl
  | complete id => exact counted.congr _ SlotTable.generationAt_finish
  | release id =>
    by_cases live : (markers.table.find? id).isSome = true
    · simp only [Markers.perform, live, ↓reduceIte]
      exact counted.release live
    · have stale := Option.not_isSome_iff_eq_none.1 live
      simp only [Markers.perform, live, Bool.false_eq_true, ↓reduceIte]
      exact counted.congr _ fun index => by rw [SlotTable.release_of_stale stale]
  | fire =>
    simp only [Markers.perform]
    split
    · exact counted
    · exact counted.congr _ SlotTable.generationAt_finish

/-- A handle that was given back is in the generation of its place again exactly when the place was
given back, from then on, a multiple of `2 ^ 32` times. -/
theorem generationAt_iff {before after : List SlotId} {id : SlotId}
    (split : markers.returned = before ++ id :: after) :
    markers.table.generationAt id.index = id.generation ↔
      2 ^ 32 ∣ returns id.index (id :: after) := by
  rw [counted.current, counted.handles before id after split, split, returns_append,
    UInt32.ofNat_add, UInt32.add_eq_left, UInt32.ofNat_eq_iff_mod_eq_toNat]
  exact Nat.dvd_iff_mod_eq_zero.symm

end Counted

/-- A handle that was given back is harmless ever after, except while its place is reserved and was
given back, from then on, a multiple of `2 ^ 32` times: the generations wrap. -/
theorem returned_handle_harmless (ops : List MarkerOp) :
    Gives Late (ops.foldlM perform opening) fun markers =>
      ∀ before id after, markers.returned = before ++ id :: after →
        (markers.table.Harmless id ↔
          ¬ (markers.table.Reserved id.index ∧ 2 ^ 32 ∣ returns id.index (id :: after))) := by
  apply (Gives.foldlM (fun _ op counted => Counted.perform counted op) ops opening_counted).mono
  intro markers counted before id after split
  rw [SlotTable.harmless_iff, ← Option.not_isSome_iff_eq_none, SlotTable.isSome_find?_iff,
    counted.generationAt_iff split]

/-- A place that was given back once and then reserved again. -/
theorem returned_handle_harmless_place_reused :
    Yields (List.foldlM perform opening [.reserve, .release ⟨0, 0⟩, .reserve]) fun markers =>
      markers.table.Reserved 0 ∧ markers.table.Harmless ⟨0, 0⟩ := by
  have general := returned_handle_harmless [.reserve, .release ⟨0, 0⟩, .reserve]
  refine .ok ⟨⟨⟨1, .pending⟩, rfl, nofun⟩, (general [] ⟨0, 0⟩ [] rfl).2 ?_⟩
  rintro ⟨-, wraps⟩
  have once : returns 0 [⟨0, 0⟩] = 1 := rfl
  rw [once] at wraps
  exact absurd wraps (by decide)

/-- The first place is reserved again and again, and given back each time. -/
def churn (rounds : Nat) : List MarkerOp :=
  (List.range rounds).flatMap fun round => [.reserve, .release ⟨0, UInt32.ofNat round⟩]

/-- The table after so many rounds, at least one. -/
def churned (rounds : Nat) : Markers where
  table := { slots := #[⟨UInt32.ofNat rounds, .free⟩], free := [0] }
  events := .empty
  returned := (List.range rounds).map fun round => ⟨0, UInt32.ofNat round⟩

theorem churn_succ (rounds : Nat) :
    churn (rounds + 1) = churn rounds ++ [.reserve, .release ⟨0, UInt32.ofNat rounds⟩] := by
  simp only [churn, List.range_succ, List.flatMap_append, List.flatMap_singleton]

theorem churned_acquire (rounds : Nat) :
    (churned rounds).table.acquire.2 = ⟨#[⟨UInt32.ofNat rounds, .pending⟩], []⟩ := rfl

/-- The first place, reserved in some generation, is found and goes on to the next one. -/
theorem release_single (generation : UInt32) :
    (SlotTable.find? ⟨#[⟨generation, .pending⟩], []⟩ ⟨0, generation⟩).isSome = true ∧
      SlotTable.release ⟨#[⟨generation, .pending⟩], []⟩ ⟨0, generation⟩ =
        ⟨#[⟨generation + 1, .free⟩], [0]⟩ := by
  have live : (SlotTable.find? ⟨#[⟨generation, .pending⟩], []⟩ ⟨0, generation⟩).isSome = true := by
    rw [SlotTable.isSome_find?_iff]
    exact ⟨⟨⟨generation, .pending⟩, rfl, nofun⟩, rfl⟩
  refine ⟨live, ?_⟩
  simp only [SlotTable.release, live, ↓reduceIte]
  rfl

theorem churned_round (rounds : Nat) :
    [.reserve, .release ⟨0, UInt32.ofNat rounds⟩].foldlM perform (churned rounds) =
      .ok (churned (rounds + 1)) := by
  obtain ⟨live, released⟩ := release_single (UInt32.ofNat rounds)
  rw [List.foldlM_cons, perform, ok_bind, List.foldlM_cons, perform, churned_acquire,
    if_pos live, released]
  simp only [churned, List.range_succ, List.map_append, List.map_singleton, UInt32.ofNat_add]
  rfl

theorem churn_run {rounds : Nat} (positive : 0 < rounds) :
    (churn rounds).foldlM perform opening = .ok (churned rounds) := by
  induction rounds, positive using Nat.le_induction with
  | base => rfl
  | succ rounds positive ih => rw [churn_succ, List.foldlM_append, ih, ok_bind, churned_round]

/-- Once the generation of the place is zero again, the next marker gets the handle that the first
one had. -/
theorem churn_wraps {rounds : Nat} (positive : 0 < rounds) (wrapped : UInt32.ofNat rounds = 0) :
    Yields (List.foldlM perform opening (churn rounds ++ [.reserve])) fun markers =>
      ⟨0, 0⟩ ∈ markers.returned ∧ (markers.table.finish ⟨0, 0⟩).1 = true := by
  rw [List.foldlM_append, churn_run positive, ok_bind, List.foldlM_cons, perform, churned_acquire,
    wrapped, ok_bind]
  refine .ok ⟨List.mem_map.2 ⟨0, List.mem_range.2 positive, rfl⟩, ?_⟩
  rfl

/-- Without the exception it is not so: after `2 ^ 32` rounds what is done with the first handle is
done to a new marker. -/
theorem returned_handle_names_slot_again :
    ¬ Gives Late (List.foldlM perform opening (churn (2 ^ 32) ++ [.reserve])) fun markers =>
      ∀ id ∈ markers.returned, markers.table.Harmless id := by
  obtain ⟨markers, run, returned, finished⟩ := churn_wraps (Nat.two_pow_pos 32) rfl
  rw [run]
  intro harmless
  have unfinished := congrArg Prod.fst (harmless ⟨0, 0⟩ returned).finish
  exact Bool.false_ne_true (unfinished.symm.trans finished)

end Markers

end GatedMemory
