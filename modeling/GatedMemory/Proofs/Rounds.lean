import Mathlib.Order.Monotone.Basic

set_option autoImplicit false

namespace GatedMemory

/-- The tick of the thing with this number, with `batch` of them in each round of `span` ticks. -/
def roundTick (batch span number : Nat) : Nat :=
  number / batch * span + number % batch

section

variable {batch span : Nat}

/-- In each round there are as many as a batch has, one after the other. -/
theorem roundTick_eq {place : Nat} (round : Nat) (inside : place < batch) :
    roundTick batch span (round * batch + place) = round * span + place := by
  have positive : 0 < batch := Nat.lt_of_le_of_lt (Nat.zero_le _) inside
  rw [roundTick, Nat.add_comm (round * _) place, Nat.add_mul_div_right _ _ positive,
    Nat.add_mul_mod_self_right, Nat.div_eq_of_lt inside, Nat.mod_eq_of_lt inside, Nat.zero_add]

theorem roundTick_of_lt {number : Nat} (first : number < batch) :
    roundTick batch span number = number := by
  have round : roundTick batch span (0 * batch + number) = 0 * span + number :=
    roundTick_eq 0 first
  rw [Nat.zero_mul, Nat.zero_mul, Nat.zero_add] at round
  exact round

theorem roundTick_add_batch (positive : 0 < batch) (number : Nat) :
    roundTick batch span (number + batch) = roundTick batch span number + span := by
  rw [roundTick, roundTick, Nat.add_div_right _ positive, Nat.add_mod_right, Nat.succ_mul]
  omega

/-- Without a gap between the rounds, something happens in each tick. -/
theorem roundTick_self (number : Nat) : roundTick span span number = number := by
  rw [roundTick, Nat.div_add_mod']

theorem roundTick_lt_succ (positive : 0 < batch) (short : batch ≤ span) (number : Nat) :
    roundTick batch span number < roundTick batch span (number + 1) := by
  have inside : number % batch < batch := Nat.mod_lt _ positive
  have split : number = number / batch * batch + number % batch :=
    (Nat.div_add_mod' number batch).symm
  generalize number / batch = round at split
  generalize number % batch = place at split inside
  subst split
  rw [roundTick_eq round inside]
  by_cases more : place + 1 < batch
  · rw [Nat.add_assoc, roundTick_eq round more]
    omega
  · -- the last one of a round, before the first of the next
    have next : round * batch + place + 1 = (round + 1) * batch + 0 := by
      rw [Nat.succ_mul]
      omega
    rw [next, roundTick_eq (round + 1) positive, Nat.succ_mul]
    omega

/-- The thing with this number is due once its turn has come and the batch before it is a span
back. -/
theorem roundTick_le (positive : 0 < batch) (short : batch ≤ span) {number tick : Nat}
    (turn : number ≤ tick) (earlier : batch < span → batch ≤ number →
      roundTick batch span (number - batch) + span ≤ tick) :
    roundTick batch span number ≤ tick := by
  by_cases first : number < batch
  · rw [roundTick_of_lt first]
    exact turn
  · rcases Nat.lt_or_eq_of_le short with shorter | rfl
    · have before := earlier shorter (Nat.not_lt.1 first)
      rwa [← roundTick_add_batch positive, Nat.sub_add_cancel (Nat.not_lt.1 first)] at before
    · rw [roundTick_self]
      exact turn

theorem strictMono_roundTick (positive : 0 < batch) (short : batch ≤ span) :
    StrictMono (roundTick batch span) :=
  strictMono_nat_of_lt_succ (roundTick_lt_succ positive short)

theorem roundTick_succ_le (positive : 0 < batch) (short : batch ≤ span) (number : Nat) :
    roundTick batch span (number + 1) ≤ roundTick batch span number + span := by
  rw [← roundTick_add_batch positive]
  exact (strictMono_roundTick positive short).monotone (by omega)

/-- It would take longer to do one thing in each span. -/
theorem roundTick_le_mul (positive : 0 < batch) (short : batch ≤ span) (number : Nat) :
    roundTick batch span number ≤ number * span := by
  induction number with
  | zero =>
    rw [roundTick_of_lt positive]
    exact Nat.zero_le _
  | succ number ih =>
    have next := roundTick_succ_le positive short number
    rw [Nat.succ_mul]
    omega

end

/-- Of `total` things, so many were due before the tick, and they are counted. -/
structure Passed (due : Nat → Nat) (total tick count : Nat) : Prop where
  inside : count ≤ total
  past : ∀ number < count, due number < tick
  next : count < total → tick ≤ due count

namespace Passed

variable {due : Nat → Nat} {total tick count number : Nat} (passed : Passed due total tick count)

theorem zero (due : Nat → Nat) (total : Nat) : Passed due total 0 0 where
  inside := Nat.zero_le _
  past := nofun
  next _ := Nat.zero_le _

include passed

theorem rest (quiet : count < total → due count ≠ tick) : Passed due total (tick + 1) count where
  inside := passed.inside
  past number before := Nat.lt_succ_of_lt (passed.past number before)
  next more := Nat.lt_of_le_of_ne (passed.next more) (quiet more).symm

/-- The next thing is not overdue: when its time has come, it is due at the tick. -/
theorem due_eq (more : count < total) (reached : due count ≤ tick) : due count = tick :=
  Nat.le_antisymm reached (passed.next more)

theorem count_le_tick (increasing : StrictMono due) : count ≤ tick := by
  cases count with
  | zero => exact Nat.zero_le _
  | succ last =>
    have before := passed.past last (Nat.lt_add_one last)
    have place := increasing.add_le_nat last 0
    rw [Nat.add_zero] at place
    omega

theorem advance (increasing : StrictMono due) (more : count < total) (now : due count ≤ tick) :
    Passed due total (tick + 1) (count + 1) where
  inside := more
  past number before := by
    rcases Nat.lt_succ_iff_lt_or_eq.1 before with before | rfl
    · exact Nat.lt_succ_of_lt (passed.past number before)
    · exact Nat.lt_succ_of_le now
  next _ := by
    have before := passed.next more
    have later := increasing (Nat.lt_add_one count)
    omega

theorem lt_count (increasing : StrictMono due) (member : number < total)
    (early : due number < tick) : number < count := by
  by_contra beyond
  have order := increasing.monotone (Nat.not_lt.1 beyond)
  have next := passed.next (by omega)
  omega

/-- When each thing is followed by another after the same delay, the next of those is still to come
if what waits is still to come. -/
theorem lt_add_delay {now delay followed : Nat} (positive : 0 < delay) (soon : now ≤ tick)
    (order : followed ≤ count) (more : followed < total)
    (waits : followed < count → now < due followed + delay) : now < due followed + delay := by
  rcases Nat.lt_or_eq_of_le order with before | rfl
  · exact waits before
  · have next := passed.next more
    omega

end Passed

/-- With a window for the things that have begun and not ended, each of which takes a span, the next
one is due exactly if the window is open for it. -/
theorem roundTick_le_iff {window span total tick begun ended : Nat}
    (positive : 0 < min window span)
    (issued : Passed (roundTick (min window span) span) total tick begun)
    (delivered : Passed (fun number => roundTick (min window span) span number + span) total
      (tick + 1) ended) (order : ended ≤ begun) (more : begun < total) :
    roundTick (min window span) span begun ≤ tick ↔ begun - ended < window := by
  have short : min window span ≤ span := Nat.min_le_right _ _
  have increasing := strictMono_roundTick positive short
  constructor
  · intro due
    have next := delivered.next (by omega)
    have before : roundTick (min window span) span begun <
        roundTick (min window span) span (ended + min window span) := by
      rw [roundTick_add_batch positive]
      exact Nat.lt_of_le_of_lt due next
    have inside := increasing.lt_iff_lt.1 before
    omega
  · intro room
    apply roundTick_le positive short (issued.count_le_tick increasing)
    intro shorter later
    -- the window is a batch, so what began one batch earlier has ended
    exact Nat.le_of_lt_succ (delivered.past _ (by omega))

/-- A number that follows others in a range is how many they are. -/
theorem eq_length_of_range {before after : List Nat} {number count : Nat}
    (order : before ++ number :: after = List.range count) : number = before.length := by
  have found := congrArg (fun numbers => numbers[before.length]?) order
  simp only [List.getElem?_append_right (Nat.le_refl _), Nat.sub_self, List.getElem?_cons_zero]
    at found
  obtain ⟨inside, same⟩ := List.getElem?_eq_some_iff.1 found.symm
  rw [List.getElem_range] at same
  exact same.symm

end GatedMemory
