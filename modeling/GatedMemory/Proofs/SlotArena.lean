import GatedMemory.Proofs.SlotTable
import Mathlib.Data.List.Induction
import Mathlib.Data.List.Infix

set_option autoImplicit false

namespace GatedMemory

/-- What can be done with a table of markers, with handles from anywhere. -/
inductive SlotOp where
  | reserve
  /-- The wait of the marker is over. -/
  | complete (id : SlotId)
  | release (id : SlotId)

namespace SlotTable

variable {table : SlotTable} {id : SlotId} {index : UInt32}

def perform (table : SlotTable) : SlotOp → SlotTable
  | .reserve => table.acquire.2
  | .complete id => (table.finish id).2
  | .release id => table.release id

def afterOps (ops : List SlotOp) : SlotTable :=
  ops.foldl perform .empty

def reservations (table : SlotTable) : Nat :=
  table.slots.toList.countP fun slot => slot.state == .pending || slot.state == .ready

/-- The free list names the places of the free slots, each once, and all other slots count as in
use. -/
structure Accounted (table : SlotTable) : Prop where
  distinct : table.free.Nodup
  listed_iff : ∀ place, place ∈ table.free.map UInt32.toNat ↔
    ∃ generation, table.slots[place]? = some ⟨generation, .free⟩
  inUse : table.inUse = table.reservations

namespace Sound

variable (sound : table.Sound)
include sound

/-- Every place has an index, so the free list can name it. -/
theorem listed_iff (place : Nat) : place ∈ table.free.map UInt32.toNat ↔
    ∃ generation, table.slots[place]? = some ⟨generation, .free⟩ := by
  constructor
  · intro listed
    obtain ⟨index, free, same⟩ := List.mem_map.1 listed
    rw [← same]
    exact (sound.free_iff index).1 free
  · intro vacant
    obtain ⟨generation, stored⟩ := vacant
    have inside := (Array.getElem?_eq_some_iff.1 stored).1
    have small : place < 2 ^ 32 := Nat.lt_of_lt_of_le inside sound.indexed
    have number : (UInt32.ofNat place).toNat = place := UInt32.toNat_ofNat_of_lt' small
    apply List.mem_map.2
    refine ⟨UInt32.ofNat place, (sound.free_iff _).2 ⟨generation, ?_⟩, number⟩
    rw [number]
    exact stored

/-- The free list is a list of the places of the free slots. -/
theorem free_perm : (table.free.map UInt32.toNat).Perm
    (table.slots.toList.findIdxs fun slot => slot.state == .free) := by
  have numbers : (table.free.map UInt32.toNat).Nodup :=
    List.Nodup.map (fun _ _ => UInt32.toNat_inj.1) sound.distinct
  apply (List.perm_ext_iff_of_nodup numbers List.nodup_findIdxs).2
  intro place
  rw [sound.listed_iff, List.mem_findIdxs_iff_exists_getElem_pos]
  constructor
  · intro vacant
    obtain ⟨generation, stored⟩ := vacant
    obtain ⟨inside, same⟩ := Array.getElem?_eq_some_iff.1 stored
    refine ⟨inside, ?_⟩
    simp [same]
  · intro vacant
    obtain ⟨inside, free⟩ := vacant
    have stored : table.slots[place]? = some table.slots[place] := Array.getElem?_eq_getElem inside
    cases slot : table.slots[place] with
    | mk generation state =>
      have same : state = .free := by simpa [slot] using free
      exact ⟨generation, by rw [stored, slot, same]⟩

theorem inUse_eq : table.inUse = table.reservations := by
  have free := sound.free_perm.length_eq
  have parts : table.slots.toList.length = _ :=
    List.length_eq_countP_add_countP fun slot : Slot => slot.state == .free
  have rest : table.slots.toList.countP (fun slot => decide ¬ (slot.state == .free) = true) =
      table.reservations := by
    apply List.countP_congr
    intro slot _
    cases slot.state <;> simp
  rw [List.length_map, List.length_findIdxs] at free
  rw [rest, Array.length_toList] at parts
  simp only [inUse]
  omega

theorem accounted : table.Accounted where
  distinct := sound.distinct
  listed_iff := sound.listed_iff
  inUse := sound.inUse_eq

theorem perform (room : table.inUse < 2 ^ 32) (op : SlotOp) : (table.perform op).Sound := by
  cases op with
  | reserve => exact acquire_sound sound room
  | complete id => exact finish_sound sound
  | release id =>
    by_cases live : (table.find? id).isSome = true
    · exact release_sound live sound
    · have stale := Option.not_isSome_iff_eq_none.1 live
      simp only [SlotTable.perform, release_of_stale stale]
      exact sound

end Sound

theorem afterOps_concat (ops : List SlotOp) (op : SlotOp) :
    afterOps (ops ++ [op]) = (afterOps ops).perform op := by
  simp only [afterOps, List.foldl_append, List.foldl_cons, List.foldl_nil]

/-- What a run preserves: there was an index for every slot that was ever reserved. -/
theorem afterOps_sound {ops : List SlotOp}
    (bounded : ∀ earlier, earlier <+: ops → (afterOps earlier).reservations < 2 ^ 32) :
    (afterOps ops).Sound := by
  induction ops using List.reverseRecOn with
  | nil => exact sound_empty
  | append_singleton ops op ih =>
    have sound := ih fun earlier before => bounded earlier (before.trans (List.prefix_append _ _))
    have room := bounded ops (List.prefix_append _ _)
    rw [← sound.inUse_eq] at room
    rw [afterOps_concat]
    exact sound.perform room op

/-- The slots are the same, but for the one at this index. -/
def SameBut (index : UInt32) (table next : SlotTable) : Prop :=
  ∀ place, place ≠ index.toNat → next.slots[place]? = table.slots[place]?

theorem sameBut_put (slot : Slot) : SameBut index table (table.put index slot) := by
  intro place elsewhere
  rw [getElem?_put, if_neg elsewhere.symm]

theorem sameBut_finish : SameBut id.index table (table.finish id).2 := by
  unfold finish
  split
  · exact sameBut_put _
  · exact fun _ _ => rfl

theorem sameBut_release : SameBut id.index table (table.release id) := by
  unfold release
  split
  · exact sameBut_put _
  · exact fun _ _ => rfl

theorem toNat_takePlace_of_nil (room : table.inUse < 2 ^ 32) (full : table.free = []) :
    table.takePlace.1.toNat = table.slots.size := by
  have small : table.slots.size < 2 ^ 32 := by simpa [inUse, full] using room
  simp only [takePlace, full]
  exact UInt32.toNat_ofNat_of_lt' small

theorem sameBut_acquire (room : table.inUse < 2 ^ 32) :
    SameBut table.acquire.1.index table table.acquire.2 := by
  intro place elsewhere
  have apart : table.takePlace.1.toNat ≠ place := elsewhere.symm
  have kept : table.takePlace.2.slots[place]? = table.slots[place]? := by
    cases free : table.free with
    | cons index rest => simp only [takePlace, free]
    | nil =>
      rw [toNat_takePlace_of_nil room free] at apart
      simp only [takePlace, free, Array.getElem?_push, apart.symm, ↓reduceIte]
  simp only [acquire, getElem?_put, apart, ↓reduceIte, kept]

/-- A new marker gets a slot that is free, or a new one. -/
theorem not_reserved_acquire (sound : table.Sound) (room : table.inUse < 2 ^ 32) :
    ¬ table.Reserved table.acquire.1.index := by
  intro reserved
  obtain ⟨slot, stored, taken⟩ := reserved
  cases free : table.free with
  | cons index rest =>
    have listed : index ∈ table.free := by simp [free]
    obtain ⟨generation, vacant⟩ := (sound.free_iff index).1 listed
    simp only [acquire, takePlace, free, vacant, Option.some.injEq] at stored
    exact taken (by rw [← stored])
  | nil =>
    have inside := (Array.getElem?_eq_some_iff.1 stored).1
    have last := toNat_takePlace_of_nil room free
    simp only [acquire, last] at inside
    omega

/-- A new marker gets a slot of its own that is not ready, and all other slots stay as they are. -/
structure ReservesApart (table : SlotTable) : Prop where
  vacant : ¬ table.Reserved table.acquire.1.index
  reserved : table.acquire.2.find? table.acquire.1 = some ⟨table.acquire.1.generation, .pending⟩
  unready : table.acquire.2.isReady table.acquire.1 = false
  others : SameBut table.acquire.1.index table table.acquire.2

/-- A handle has an effect only as long as it finds its slot, and only on that slot. -/
structure ActsOnOwn (table : SlotTable) (id : SlotId) : Prop where
  completes : (table.finish id).1 = true → table.isWaiting id = true ∧
    (table.finish id).2.isReady id = true ∧ (table.finish id).2.free = table.free ∧
    SameBut id.index table (table.finish id).2
  ignores : (table.finish id).1 = false → (table.finish id).2 = table
  releases : table.find? id ≠ none →
    (table.release id).slots[id.index.toNat]? = some ⟨id.generation + 1, .free⟩ ∧
    (table.release id).free = id.index :: table.free ∧ SameBut id.index table (table.release id)
  stale : table.find? id = none → table.release id = table

theorem Sound.reservesApart (sound : table.Sound) (room : table.inUse < 2 ^ 32) :
    table.ReservesApart where
  vacant := not_reserved_acquire sound room
  reserved := find?_acquire_self sound room
  unready := by
    simp [isReady, find?_acquire_self sound room]
  others := sameBut_acquire room

theorem actsOnOwn (table : SlotTable) (id : SlotId) : table.ActsOnOwn id where
  completes done := by
    rw [finish_fst] at done
    refine ⟨done, isReady_iff.2 (find?_finish_self done), ?_, sameBut_finish⟩
    simp only [finish, done, ↓reduceIte, put_free]
  ignores idle := by
    rw [finish_fst] at idle
    rw [finish_of_not_waiting idle]
  releases found := by
    have live := Option.isSome_iff_ne_none.2 found
    obtain ⟨slot, stored⟩ := Option.isSome_iff_exists.1 live
    have inside := (Array.getElem?_eq_some_iff.1 (find?_eq_some_iff.1 stored).1).1
    refine ⟨?_, ?_, sameBut_release⟩
    · simp [release, live, put, inside]
    · simp only [release, live, ↓reduceIte, put_free]
  stale := release_of_stale

/-- Whatever was done with whatever handles, the free list names exactly the free slots and the
count is that of the others, a new marker shares its slot with no other one, and a handle affects no
slot but its own. -/
theorem markers_apart (ops : List SlotOp)
    (bounded : ∀ earlier, earlier <+: ops → (afterOps earlier).reservations < 2 ^ 32) :
    (afterOps ops).Accounted ∧ (afterOps ops).ReservesApart ∧
      ∀ id, (afterOps ops).ActsOnOwn id := by
  have sound := afterOps_sound bounded
  have room := bounded ops (List.prefix_refl ops)
  rw [← sound.inUse_eq] at room
  exact ⟨sound.accounted, sound.reservesApart room, actsOnOwn _⟩

/-- A slot that is given back twice, completed in vain, and used again next to another one. -/
def givenBackTwice : List SlotOp :=
  [.reserve, .reserve, .release ⟨0, 0⟩, .release ⟨0, 0⟩, .complete ⟨0, 0⟩, .complete ⟨7, 3⟩,
    .reserve, .complete ⟨0, 1⟩]

theorem markers_apart_given_back_twice :
    (∀ earlier, earlier <+: givenBackTwice → (afterOps earlier).reservations < 2 ^ 32) ∧
    ((afterOps givenBackTwice).Accounted ∧ (afterOps givenBackTwice).ReservesApart ∧
      ∀ id, (afterOps givenBackTwice).ActsOnOwn id) ∧
    afterOps givenBackTwice = ⟨#[⟨1, .ready⟩, ⟨0, .pending⟩], []⟩ := by
  have few : ∀ earlier ∈ givenBackTwice.inits, (afterOps earlier).reservations < 2 ^ 32 := by
    decide
  have bounded : ∀ earlier, earlier <+: givenBackTwice →
      (afterOps earlier).reservations < 2 ^ 32 :=
    fun earlier before => few earlier ((List.mem_inits earlier _).2 before)
  exact ⟨bounded, markers_apart givenBackTwice bounded, by decide⟩

end SlotTable

end GatedMemory
