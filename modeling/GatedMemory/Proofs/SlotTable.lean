import GatedMemory.SlotTable
import Mathlib.Algebra.Group.Nat.Defs
import Mathlib.Data.List.Nodup
import Mathlib.Data.List.Perm.Subperm

set_option autoImplicit false

namespace GatedMemory

namespace SlotTable

variable {table : SlotTable} {id other : SlotId}

/-- The free list holds exactly the places of the free slots, each once, and every place has an
index of its own. -/
structure Sound (table : SlotTable) : Prop where
  indexed : table.slots.size ≤ 2 ^ 32
  distinct : table.free.Nodup
  free_iff : ∀ index, index ∈ table.free ↔
    ∃ generation, table.slots[index.toNat]? = some ⟨generation, .free⟩

theorem sound_empty : SlotTable.empty.Sound where
  indexed := Nat.zero_le _
  distinct := List.nodup_nil
  free_iff index := by simp [SlotTable.empty]

theorem find?_eq_some_iff {slot : Slot} :
    table.find? id = some slot ↔ table.slots[id.index.toNat]? = some slot ∧
      slot.generation = id.generation ∧ slot.state ≠ .free := by
  simp only [find?, Option.filter_eq_some_iff, Bool.and_eq_true, beq_iff_eq, bne_iff_ne, ne_eq]

theorem isReady_iff : table.isReady id = true ↔
    table.find? id = some ⟨id.generation, .ready⟩ := by
  simp only [isReady, Option.any_eq_true, beq_iff_eq]
  constructor
  · rintro ⟨slot, found, ready⟩
    rw [found, ← (find?_eq_some_iff.1 found).2.1, ← ready]
  · intro found
    exact ⟨_, found, rfl⟩

theorem isWaiting_iff : table.isWaiting id = true ↔
    table.find? id = some ⟨id.generation, .pending⟩ := by
  simp only [isWaiting, Option.any_eq_true, beq_iff_eq]
  constructor
  · rintro ⟨slot, found, waiting⟩
    rw [found, ← (find?_eq_some_iff.1 found).2.1, ← waiting]
  · intro found
    exact ⟨_, found, rfl⟩

theorem isWaiting_of_not_ready (live : (table.find? id).isSome = true)
    (unready : table.isReady id = false) : table.isWaiting id = true := by
  obtain ⟨⟨generation, state⟩, found⟩ := Option.isSome_iff_exists.1 live
  have reserved := (find?_eq_some_iff.1 found).2.2
  simp only [isReady, found, Option.any_some, beq_eq_false_iff_ne, ne_eq] at unready
  simp only [isWaiting, found, Option.any_some, beq_iff_eq]
  cases state <;> simp_all

theorem not_isWaiting_of_ready (ready : table.isReady id = true) :
    table.isWaiting id = false := by
  rw [Bool.eq_false_iff, ne_eq, isWaiting_iff, isReady_iff.1 ready]
  simp

theorem isReady_congr {next : SlotTable} (same : next.find? id = table.find? id) :
    next.isReady id = table.isReady id := by
  simp only [isReady, same]

theorem Sound.not_mem_free (sound : table.Sound) (live : (table.find? id).isSome = true) :
    id.index ∉ table.free := by
  intro free
  obtain ⟨generation, vacant⟩ := (sound.free_iff _).1 free
  obtain ⟨slot, found⟩ := Option.isSome_iff_exists.1 live
  obtain ⟨stored, -, reserved⟩ := find?_eq_some_iff.1 found
  rw [vacant] at stored
  cases stored
  exact reserved rfl

/-- Distinct places inside the table are no more than the table has. -/
theorem length_le_of_places {places : List UInt32} {size : Nat} (distinct : places.Nodup)
    (inside : ∀ index ∈ places, index.toNat < size) : places.length ≤ size := by
  have numbers : (places.map UInt32.toNat).Nodup :=
    List.Nodup.map (fun _ _ => UInt32.toNat_inj.1) distinct
  have within : places.map UInt32.toNat ⊆ List.range size := by
    intro number member
    obtain ⟨index, present, rfl⟩ := List.mem_map.1 member
    exact List.mem_range.2 (inside index present)
  simpa using (List.subperm_of_subset numbers within).length_le

theorem Sound.inside (sound : table.Sound) {index : UInt32} (free : index ∈ table.free) :
    index.toNat < table.slots.size := by
  obtain ⟨generation, vacant⟩ := (sound.free_iff index).1 free
  exact (Array.getElem?_eq_some_iff.1 vacant).1

theorem Sound.free_length_le (sound : table.Sound) : table.free.length ≤ table.slots.size :=
  length_le_of_places sound.distinct fun _ => sound.inside

theorem Sound.free_length_lt (sound : table.Sound) (live : (table.find? id).isSome = true) :
    table.free.length < table.slots.size := by
  obtain ⟨slot, found⟩ := Option.isSome_iff_exists.1 live
  have stored := (find?_eq_some_iff.1 found).1
  have places : (id.index :: table.free).length ≤ table.slots.size := by
    apply length_le_of_places (List.nodup_cons.2 ⟨sound.not_mem_free live, sound.distinct⟩)
    intro index member
    rcases List.mem_cons.1 member with rfl | free
    · exact (Array.getElem?_eq_some_iff.1 stored).1
    · exact sound.inside free
  exact places

theorem getElem?_put (index : UInt32) (slot : Slot) (place : Nat) :
    (table.put index slot).slots[place]? =
      if index.toNat = place then (if place < table.slots.size then some slot else none)
      else table.slots[place]? := by
  simp only [put, Array.getElem?_setIfInBounds]
  split <;> simp_all

theorem find?_put_of_ne {index : UInt32} {slot : Slot} (elsewhere : id.index ≠ index) :
    (table.put index slot).find? id = table.find? id := by
  have apart : index.toNat ≠ id.index.toNat := fun same =>
    elsewhere (UInt32.toNat_inj.1 same).symm
  simp only [find?, getElem?_put, apart, ↓reduceIte]

theorem find?_put_self {slot : Slot} (inside : id.index.toNat < table.slots.size)
    (current : slot.generation = id.generation) (reserved : slot.state ≠ .free) :
    (table.put id.index slot).find? id = some slot := by
  rw [find?_eq_some_iff]
  refine ⟨?_, current, reserved⟩
  simp only [getElem?_put, inside, ↓reduceIte]

/-- A handle of another generation finds nothing where a slot was overwritten. -/
theorem find?_put_of_generation {slot : Slot} (inside : id.index.toNat < table.slots.size)
    (stale : slot.generation ≠ id.generation ∨ slot.state = .free) :
    (table.put id.index slot).find? id = none := by
  have stored : (table.put id.index slot).slots[id.index.toNat]? = some slot := by
    simp only [getElem?_put, inside, ↓reduceIte]
  rcases stale with stale | stale <;> simp [find?, stored, Option.filter, stale]

/-- Two handles of reserved slots at one place are the same. -/
theorem eq_of_index (live : (table.find? id).isSome = true)
    (found : (table.find? other).isSome = true) (same : other.index = id.index) : other = id := by
  obtain ⟨slot, here⟩ := Option.isSome_iff_exists.1 live
  obtain ⟨slot', there⟩ := Option.isSome_iff_exists.1 found
  obtain ⟨stored, generation, -⟩ := find?_eq_some_iff.1 here
  obtain ⟨stored', generation', -⟩ := find?_eq_some_iff.1 there
  rw [same, stored] at stored'
  cases stored'
  cases id
  cases other
  simp_all

@[simp] theorem put_size (index : UInt32) (slot : Slot) :
    (table.put index slot).slots.size = table.slots.size := by
  simp only [put, Array.size_setIfInBounds]

@[simp] theorem put_free (index : UInt32) (slot : Slot) :
    (table.put index slot).free = table.free := rfl

/-- A place for a new marker holds a free slot, no longer counts as free, and the rest of the table
is as before. -/
structure Offers (table : SlotTable) (index : UInt32) (next : SlotTable) : Prop where
  indexed : next.slots.size ≤ 2 ^ 32
  vacant : ∃ generation, next.slots[index.toNat]? = some ⟨generation, .free⟩
  distinct : next.free.Nodup
  taken : index ∉ next.free
  free_iff : ∀ other, other ≠ index → (other ∈ next.free ↔
    ∃ generation, next.slots[other.toNat]? = some ⟨generation, .free⟩)
  find? : ∀ id, next.find? id = table.find? id
  count : next.slots.size = table.inUse + 1 + next.free.length

theorem takePlace_offers (sound : table.Sound)
    (room : table.inUse < 2 ^ 32) : table.Offers table.takePlace.1 table.takePlace.2 := by
  have fits := sound.free_length_le
  cases free : table.free with
  | cons index rest =>
    have listed : index ∈ table.free := by simp [free]
    obtain ⟨fresh, distinct⟩ := List.nodup_cons.1 (free ▸ sound.distinct)
    simp only [takePlace, free]
    refine ⟨sound.indexed, (sound.free_iff index).1 listed, distinct, fresh, ?_, fun _ => rfl, ?_⟩
    · intro other apart
      rw [← sound.free_iff other, free, List.mem_cons]
      simp only [apart, false_or]
    · simp only [inUse, free, List.length_cons] at fits ⊢
      omega
  | nil =>
    have small : table.slots.size < 2 ^ 32 := by simpa [inUse, free] using room
    have place : (UInt32.ofNat table.slots.size).toNat = table.slots.size :=
      UInt32.toNat_ofNat_of_lt' small
    simp only [takePlace, free]
    refine ⟨?_, ⟨0, ?_⟩, List.nodup_nil, List.not_mem_nil, ?_, ?_, ?_⟩
    · rw [Array.size_push]
      omega
    · rw [place]
      exact Array.getElem?_push_size
    · intro other apart
      have elsewhere : other.toNat ≠ table.slots.size := by
        intro same
        exact apart (UInt32.toNat_inj.1 (same.trans place.symm))
      have occupied := sound.free_iff other
      simp only [free] at occupied
      simpa only [Array.getElem?_push, elsewhere, ↓reduceIte] using occupied
    · intro id
      by_cases last : id.index.toNat = table.slots.size
      · simp [SlotTable.find?, last, Option.filter]
      · simp only [SlotTable.find?, Array.getElem?_push, last, ↓reduceIte]
    · simp only [Array.size_push, inUse, free, List.length_nil]
      omega

variable (sound : table.Sound) (room : table.inUse < 2 ^ 32)
include sound room

theorem acquire_sound : table.acquire.2.Sound := by
  have offers := takePlace_offers sound room
  obtain ⟨generation, vacant⟩ := offers.vacant
  have inside := (Array.getElem?_eq_some_iff.1 vacant).1
  refine ⟨?_, offers.distinct, ?_⟩
  · simpa only [acquire, put_size] using offers.indexed
  · intro index
    by_cases same : index = table.takePlace.1
    · subst same
      constructor
      · intro free
        exact absurd free offers.taken
      · rintro ⟨generation, stored⟩
        simp only [acquire, getElem?_put, inside, ↓reduceIte] at stored
        cases stored
    · have apart : table.takePlace.1.toNat ≠ index.toNat := fun equal =>
        same (UInt32.toNat_inj.1 equal).symm
      simpa only [acquire, put_free, getElem?_put, apart, ↓reduceIte] using
        offers.free_iff index same

theorem find?_acquire_before : table.find? table.acquire.1 = none := by
  have offers := takePlace_offers sound room
  obtain ⟨generation, vacant⟩ := offers.vacant
  rw [← offers.find?]
  simp [find?, acquire, vacant, Option.filter]

theorem find?_acquire_self : table.acquire.2.find? table.acquire.1 =
    some ⟨table.acquire.1.generation, .pending⟩ := by
  obtain ⟨generation, vacant⟩ := (takePlace_offers sound room).vacant
  have inside := (Array.getElem?_eq_some_iff.1 vacant).1
  have unused : SlotState.pending ≠ .free := by simp
  exact find?_put_self inside rfl unused

theorem find?_acquire_of_ne (apart : other ≠ table.acquire.1) :
    table.acquire.2.find? other = table.find? other := by
  have offers := takePlace_offers sound room
  obtain ⟨generation, vacant⟩ := offers.vacant
  by_cases same : other.index = table.takePlace.1
  · have inside : other.index.toNat < table.takePlace.2.slots.size := by
      rw [same]
      exact (Array.getElem?_eq_some_iff.1 vacant).1
    have stale : table.acquire.1.generation ≠ other.generation := by
      intro equal
      apply apart
      cases other
      simp_all [acquire]
    rw [← offers.find?]
    have before : table.takePlace.2.find? other = none := by
      simp [find?, same, vacant, Option.filter]
    rw [before]
    simp only [acquire, ← same]
    apply find?_put_of_generation inside
    left
    simpa only [acquire, same] using stale
  · rw [← offers.find?]
    exact find?_put_of_ne same

theorem inUse_acquire : table.acquire.2.inUse = table.inUse + 1 := by
  have count := (takePlace_offers sound room).count
  simp only [inUse, acquire, put_size, put_free] at count ⊢
  omega

omit room

/-- The table grows only when every place of it is reserved. -/
theorem size_acquire : table.acquire.2.slots.size = max table.slots.size (table.inUse + 1) := by
  have fits := sound.free_length_le
  cases free : table.free with
  | cons index rest =>
    simp only [acquire, takePlace, inUse, free, put_size, List.length_cons] at fits ⊢
    omega
  | nil =>
    simp only [acquire, takePlace, inUse, free, put_size, Array.size_push, List.length_nil]
    omega

theorem finish_sound : (table.finish id).2.Sound := by
  unfold finish
  split
  case isFalse => exact sound
  case isTrue waiting =>
    have found := isWaiting_iff.1 waiting
    have live : (table.find? id).isSome = true := by rw [found]; rfl
    have stored := (find?_eq_some_iff.1 found).1
    have inside := (Array.getElem?_eq_some_iff.1 stored).1
    refine ⟨?_, sound.distinct, ?_⟩
    · simpa only [put_size] using sound.indexed
    · intro index
      by_cases same : id.index.toNat = index.toNat
      · have equal := UInt32.toNat_inj.1 same
        have listed := sound.not_mem_free live
        subst equal
        simp [put, inside, listed]
      · simpa only [put_free, getElem?_put, same, ↓reduceIte] using sound.free_iff index

omit sound

theorem finish_fst : (table.finish id).1 = table.isWaiting id := by
  unfold finish
  split <;> simp_all

theorem find?_finish_self (waiting : table.isWaiting id = true) :
    (table.finish id).2.find? id = some ⟨id.generation, .ready⟩ := by
  have stored := (find?_eq_some_iff.1 (isWaiting_iff.1 waiting)).1
  have inside := (Array.getElem?_eq_some_iff.1 stored).1
  simp only [finish, waiting, ↓reduceIte]
  exact find?_put_self inside rfl nofun

theorem find?_finish_of_ne (apart : other ≠ id) :
    (table.finish id).2.find? other = table.find? other := by
  unfold finish
  split
  case isFalse => rfl
  case isTrue waiting =>
    have found := isWaiting_iff.1 waiting
    by_cases same : other.index = id.index
    · have stored := (find?_eq_some_iff.1 found).1
      have inside := (Array.getElem?_eq_some_iff.1 stored).1
      have stale : id.generation ≠ other.generation := by
        intro equal
        apply apart
        cases other
        cases id
        simp_all
      have before : table.find? other = none := by
        by_contra present
        exact apart (eq_of_index (by rw [found]; rfl) (Option.isSome_iff_ne_none.2 present) same)
      rw [before, ← same]
      exact find?_put_of_generation (same ▸ inside) (.inl stale)
    · exact find?_put_of_ne same

theorem finish_of_not_waiting (other : table.isWaiting id = false) :
    table.finish id = (false, table) := by
  simp only [finish, other, Bool.false_eq_true, ↓reduceIte]

/-- The end of a wait leaves every other marker that is ready, and a marker that was ready. -/
theorem isReady_finish (ready : table.isReady other = true) :
    (table.finish id).2.isReady other = true := by
  by_cases same : other = id
  · subst same
    rwa [finish_of_not_waiting (not_isWaiting_of_ready ready)]
  · rwa [isReady_congr (find?_finish_of_ne same)]

theorem size_finish : (table.finish id).2.slots.size = table.slots.size := by
  unfold finish
  split
  · exact put_size _ _
  · rfl

theorem inUse_finish : (table.finish id).2.inUse = table.inUse := by
  unfold finish
  split
  · simp only [inUse, put_size, put_free]
  · rfl

theorem release_of_stale (stale : table.find? id = none) : table.release id = table := by
  simp [release, stale]

theorem size_release : (table.release id).slots.size = table.slots.size := by
  unfold release
  split
  · exact put_size _ _
  · rfl

section Release

variable (live : (table.find? id).isSome = true)
include live

theorem release_sound (sound : table.Sound) : (table.release id).Sound := by
  obtain ⟨slot, found⟩ := Option.isSome_iff_exists.1 live
  have stored := (find?_eq_some_iff.1 found).1
  have inside := (Array.getElem?_eq_some_iff.1 stored).1
  simp only [release, live, ↓reduceIte]
  refine ⟨?_, List.nodup_cons.2 ⟨sound.not_mem_free live, sound.distinct⟩, ?_⟩
  · simpa only [put_size] using sound.indexed
  · intro index
    by_cases same : id.index.toNat = index.toNat
    · have equal := UInt32.toNat_inj.1 same
      subst equal
      simp [put, inside]
    · have apart : index ≠ id.index := fun equal => same (by rw [equal])
      have others := sound.free_iff index
      simp only [List.mem_cons, apart, false_or]
      simpa only [put_free, getElem?_put, same, ↓reduceIte] using others

theorem find?_release_self : (table.release id).find? id = none := by
  obtain ⟨slot, found⟩ := Option.isSome_iff_exists.1 live
  have stored := (find?_eq_some_iff.1 found).1
  have inside := (Array.getElem?_eq_some_iff.1 stored).1
  simp only [release, live, ↓reduceIte]
  exact find?_put_of_generation inside (.inr rfl)

theorem find?_release_of_ne (apart : other ≠ id) :
    (table.release id).find? other = table.find? other := by
  obtain ⟨slot, found⟩ := Option.isSome_iff_exists.1 live
  have stored := (find?_eq_some_iff.1 found).1
  have inside := (Array.getElem?_eq_some_iff.1 stored).1
  simp only [release, live, ↓reduceIte]
  by_cases same : other.index = id.index
  · have before : table.find? other = none := by
      by_contra present
      exact apart (eq_of_index live (Option.isSome_iff_ne_none.2 present) same)
    rw [before, ← same]
    exact find?_put_of_generation (same ▸ inside) (.inr rfl)
  · exact find?_put_of_ne same

theorem inUse_release (sound : table.Sound) : (table.release id).inUse + 1 = table.inUse := by
  have fits := sound.free_length_lt live
  simp only [release, live, ↓reduceIte, inUse, put_size, put_free, List.length_cons]
  omega

end Release

theorem generationAt_eq {slot : Slot} {index : UInt32}
    (stored : table.slots[index.toNat]? = some slot) :
    table.generationAt index = slot.generation := by
  simp only [generationAt, stored, Option.elim_some]

/-- A reserved slot is in the generation of its handle. -/
theorem generationAt_of_live (live : (table.find? id).isSome = true) :
    table.generationAt id.index = id.generation := by
  obtain ⟨slot, found⟩ := Option.isSome_iff_exists.1 live
  obtain ⟨stored, current, -⟩ := find?_eq_some_iff.1 found
  rw [generationAt_eq stored, current]

theorem generationAt_put_of_ne {index place : UInt32} {slot : Slot} (elsewhere : index ≠ place) :
    (table.put index slot).generationAt place = table.generationAt place := by
  have apart : index.toNat ≠ place.toNat := fun same => elsewhere (UInt32.toNat_inj.1 same)
  simp only [generationAt, getElem?_put, apart, ↓reduceIte]

theorem generationAt_put_self {index : UInt32} {slot : Slot}
    (inside : index.toNat < table.slots.size) :
    (table.put index slot).generationAt index = slot.generation := by
  apply generationAt_eq
  simp only [getElem?_put, inside, ↓reduceIte]

/-- A slot that is overwritten by one of its own generation leaves every generation as it was. -/
theorem generationAt_put_of_same {index : UInt32} {slot : Slot}
    (same : slot.generation = table.generationAt index) (place : UInt32) :
    (table.put index slot).generationAt place = table.generationAt place := by
  by_cases here : index = place
  · subst here
    by_cases inside : index.toNat < table.slots.size
    · rw [generationAt_put_self inside, same]
    · simp only [generationAt, getElem?_put, inside, ↓reduceIte]
      rw [Array.getElem?_eq_none (Nat.not_lt.1 inside)]
  · exact generationAt_put_of_ne here

/-- A place that was never used is in generation zero, like a new slot. -/
theorem generationAt_takePlace (place : UInt32) :
    table.takePlace.2.generationAt place = table.generationAt place := by
  cases free : table.free with
  | cons index rest => simp only [takePlace, free, generationAt]
  | nil =>
    simp only [takePlace, free, generationAt, Array.getElem?_push]
    split
    case isTrue last =>
      rw [Array.getElem?_eq_none (Nat.le_of_eq last.symm)]
      rfl
    case isFalse => rfl

theorem generationAt_acquire (place : UInt32) :
    table.acquire.2.generationAt place = table.generationAt place := by
  simp only [acquire]
  rw [generationAt_put_of_same rfl, generationAt_takePlace]

theorem generationAt_finish (place : UInt32) :
    (table.finish id).2.generationAt place = table.generationAt place := by
  unfold finish
  split
  case isTrue waiting =>
    have live : (table.find? id).isSome = true := by
      rw [isWaiting_iff.1 waiting]
      rfl
    exact generationAt_put_of_same (generationAt_of_live live).symm place
  case isFalse => rfl

theorem generationAt_release (live : (table.find? id).isSome = true) (place : UInt32) :
    (table.release id).generationAt place =
      table.generationAt place + if id.index = place then 1 else 0 := by
  obtain ⟨slot, found⟩ := Option.isSome_iff_exists.1 live
  have inside := (Array.getElem?_eq_some_iff.1 (find?_eq_some_iff.1 found).1).1
  simp only [release, live, ↓reduceIte]
  change (table.put id.index ⟨id.generation + 1, .free⟩).generationAt place = _
  by_cases here : id.index = place
  · subst here
    rw [generationAt_put_self inside, generationAt_of_live live, if_pos rfl]
  · rw [generationAt_put_of_ne here, if_neg here, UInt32.add_zero]

def Reserved (table : SlotTable) (index : UInt32) : Prop :=
  ∃ slot, table.slots[index.toNat]? = some slot ∧ slot.state ≠ .free

/-- A handle finds the slot at its place in its own generation, as long as that slot is reserved. -/
theorem isSome_find?_iff : (table.find? id).isSome = true ↔
    table.Reserved id.index ∧ table.generationAt id.index = id.generation := by
  constructor
  · intro live
    obtain ⟨slot, found⟩ := Option.isSome_iff_exists.1 live
    obtain ⟨stored, -, reserved⟩ := find?_eq_some_iff.1 found
    exact ⟨⟨slot, stored, reserved⟩, generationAt_of_live live⟩
  · rintro ⟨⟨slot, stored, reserved⟩, current⟩
    rw [generationAt_eq stored] at current
    exact Option.isSome_iff_exists.2 ⟨slot, find?_eq_some_iff.2 ⟨stored, current, reserved⟩⟩

/-- Nothing that is done with the handle has any effect, and it is not ready. -/
structure Harmless (table : SlotTable) (id : SlotId) : Prop where
  unready : table.isReady id = false
  finish : table.finish id = (false, table)
  release : table.release id = table

/-- A handle is harmless exactly when it finds no slot. -/
theorem harmless_iff : table.Harmless id ↔ table.find? id = none := by
  constructor
  · intro harmless
    by_contra present
    have live := Option.isSome_iff_ne_none.2 present
    have waiting := isWaiting_of_not_ready live harmless.unready
    have answer : (table.finish id).1 = table.isWaiting id := finish_fst
    rw [harmless.finish, waiting] at answer
    exact Bool.false_ne_true answer
  · intro stale
    have idle : table.isWaiting id = false := by simp [isWaiting, stale]
    exact ⟨by simp [isReady, stale], finish_of_not_waiting idle, release_of_stale stale⟩

end SlotTable

end GatedMemory
