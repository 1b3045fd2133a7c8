import GatedMemory.Proofs.Generated

set_option autoImplicit false

namespace GatedMemory

namespace Workload

theorem clampedRound_le (limit : Nat) (x : Float) : clampedRound limit x ≤ limit := by
  unfold clampedRound
  cases Decimal.Binary64.ofFloat x with
  | nan => exact Nat.zero_le _
  | infinite negative =>
    cases negative
    · exact Nat.le_refl _
    · exact Nat.zero_le _
  | finite negative mantissa exponent =>
    cases negative
    · exact Nat.min_le_left ..
    · exact Nat.zero_le _

theorem readsPerHundred_le (workload : Workload) : workload.readsPerHundred ≤ 100 :=
  clampedRound_le 100 _

def commandOf (workload : Workload) (number : Nat) : Command :=
  if number % 100 < workload.readsPerHundred then .readReq else .writeReq

/-- The reads among the first requests of a workload: those of the whole hundreds, and those with
which the last hundred begins. -/
def readsAmong (workload : Workload) (count : Nat) : Nat :=
  count / 100 * workload.readsPerHundred + min (count % 100) workload.readsPerHundred

variable (workload : Workload) (count : Nat)

theorem readsAmong_succ : workload.readsAmong (count + 1) =
    workload.readsAmong count + if count % 100 < workload.readsPerHundred then 1 else 0 := by
  have bound := workload.readsPerHundred_le
  unfold readsAmong
  -- the last request of a hundred completes it, and the count of the next one starts at zero
  by_cases last : count % 100 = 99
  · rw [show (count + 1) / 100 = count / 100 + 1 by omega, show (count + 1) % 100 = 0 by omega,
      Nat.succ_mul]
    split <;> omega
  · rw [show (count + 1) / 100 = count / 100 by omega,
      show (count + 1) % 100 = count % 100 + 1 by omega]
    split <;> omega

/-- A hundred requests more are as many reads more as the share says. -/
theorem readsAmong_add_hundred :
    workload.readsAmong (count + 100) = workload.readsAmong count + workload.readsPerHundred := by
  unfold readsAmong
  rw [Nat.add_div_right count (by decide), Nat.add_mod_right, Nat.succ_mul]
  omega

theorem count_read_commandOf :
    ((List.range count).map workload.commandOf).count .readReq = workload.readsAmong count := by
  induction count with
  | zero => simp [readsAmong]
  | succ count ih =>
    rw [List.range_succ, List.map_append, List.count_append, ih, readsAmong_succ,
      List.map_singleton, List.count_singleton, commandOf]
    split <;> rfl

theorem count_write_commandOf :
    ((List.range count).map workload.commandOf).count .writeReq =
      count - workload.readsAmong count := by
  have all : ((List.range count).map workload.commandOf).count .readReq +
      ((List.range count).map workload.commandOf).count .writeReq = count := by
    induction count with
    | zero => rfl
    | succ count ih =>
      rw [List.range_succ, List.map_append, List.count_append, List.count_append,
        List.map_singleton, List.count_singleton, List.count_singleton, commandOf]
      split <;> simp <;> omega
  rw [count_read_commandOf] at all
  omega

end Workload

namespace RequestGenerator

variable {workload : Workload} {requests : List Packet} {source : RequestGenerator}

theorem requestOf_command (workload : Workload) (number address now : Nat) :
    (requestOf workload number address now).command = workload.commandOf number := by
  unfold requestOf Workload.commandOf
  split <;> rfl

/-- The commands of the requests depend on their numbers only. -/
theorem Generated.map_command (generated : Generated workload requests source) :
    requests.map Packet.command = (List.range requests.length).map workload.commandOf := by
  apply List.ext_getElem?
  intro number
  rw [List.getElem?_map, List.getElem?_map]
  cases here : requests[number]? with
  | none =>
    rw [List.getElem?_eq_none (by simpa using here)]
    rfl
  | some request =>
    obtain ⟨inside, -⟩ := List.getElem?_eq_some_iff.1 here
    obtain ⟨position, place, -, same⟩ := generated.eq_requestOf here
    rw [List.getElem?_range inside, Option.map_some, Option.map_some, same, requestOf_command]

/-- How reads and writes are mixed. -/
structure MixesReads (workload : Workload) (requests : List Packet) : Prop where
  /-- Among the first requests are the reads of the whole hundreds, and those with which the last
  hundred begins; -/
  reads : ∀ count ≤ requests.length,
    ((requests.take count).map Packet.command).count .readReq =
      count / 100 * workload.readsPerHundred + min (count % 100) workload.readsPerHundred
  /-- the others are writes. -/
  writes : ∀ count ≤ requests.length,
    ((requests.take count).map Packet.command).count .writeReq =
      count -
        (count / 100 * workload.readsPerHundred + min (count % 100) workload.readsPerHundred)
  /-- Every hundred successive requests have the same share. -/
  window : ∀ start, start + 100 ≤ requests.length →
    (((requests.drop start).take 100).map Packet.command).count .readReq =
      workload.readsPerHundred

/-- Whatever calls a requester gets, the reads have their exact share of what it creates. -/
theorem Generated.mixes_reads (generated : Generated workload requests source) :
    MixesReads workload requests := by
  have commands : ∀ count ≤ requests.length, (requests.take count).map Packet.command =
      (List.range count).map workload.commandOf := by
    intro count inside
    rw [List.map_take, generated.map_command, ← List.map_take, List.take_range,
      Nat.min_eq_left inside]
  have reads : ∀ count ≤ requests.length,
      ((requests.take count).map Packet.command).count .readReq = workload.readsAmong count := by
    intro count inside
    rw [commands count inside, workload.count_read_commandOf]
  refine ⟨reads, ?_, ?_⟩
  · intro count inside
    rw [commands count inside]
    exact workload.count_write_commandOf count
  · intro start inside
    have before := reads start (by omega)
    have after := reads (start + 100) inside
    rw [List.take_add, List.map_append, List.count_append, before,
      workload.readsAmong_add_hundred] at after
    exact Nat.add_left_cancel after

/-- Two hundred and fifty requests, a quarter of them reads. -/
def quarterReads : Workload :=
  { numRequests := 250, readFraction := 0.25 }

theorem mixes_reads_quarter : ∃ requests source, Generated quarterReads requests source ∧
    requests.length = 250 ∧ quarterReads.readsPerHundred = 25 ∧
    MixesReads quarterReads requests := by
  have none_yet : Generated quarterReads [] (fresh quarterReads) := .start
  obtain ⟨requests, source, generated, whole⟩ :=
    none_yet.exists_all (by decide) (by decide) (by decide)
  exact ⟨_, source, generated, whole, by decide +kernel, generated.mixes_reads⟩

end RequestGenerator

end GatedMemory
