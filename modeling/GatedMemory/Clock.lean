import GatedMemory.Fault

/-!
Virtual time and clock edges. Time is counted in ticks. A clock of period `p` has its edges at the
multiples of `p`, and a cycle is the time between two of them.
-/

set_option autoImplicit false

namespace GatedMemory

namespace Clock

/-- The first edge at or after `now`. -/
def align (now period : Nat) : Nat :=
  (now + (period - 1)) / period * period

/-- The edge that lies `cycles` edges after the first one at or after `now`. -/
def edge (now cycles period : Nat) : Nat :=
  align now period + cycles * period

/-- `edge` as a word, refusing a clock of period zero. Neither the first edge nor the cycles take
more than their sum, so it is enough to look at that. -/
def edge? (now cycles period : Nat) : Except Fault Nat :=
  if period = 0 then .error .zeroClockPeriod
  else toWord (edge now cycles period) (.edge (edge now cycles period) now)

theorem le_align {now period : Nat} (pos : 0 < period) : now ≤ align now period := by
  have split := Nat.div_add_mod (now + (period - 1)) period
  have small := Nat.mod_lt (now + (period - 1)) pos
  have comm := Nat.mul_comm ((now + (period - 1)) / period) period
  unfold align
  omega

/-- No edge lies further away than the cycles and one period more. -/
theorem edge_lt {now cycles period : Nat} (pos : 0 < period) :
    edge now cycles period < now + (cycles + 1) * period := by
  have below := Nat.div_mul_le_self (now + (period - 1)) period
  rw [Nat.succ_mul]
  unfold edge align
  omega

theorem le_edge {now cycles period : Nat} (pos : 0 < period) :
    now ≤ edge now cycles period :=
  Nat.le_trans (le_align pos) (Nat.le_add_right _ _)

theorem lt_edge {now cycles period : Nat} (pos : 0 < period) (cycle : 0 < cycles) :
    now < edge now cycles period :=
  Nat.lt_of_le_of_lt (le_align pos) (Nat.lt_add_of_pos_right (Nat.mul_pos cycle pos))

theorem align_le_align {now later : Nat} (period : Nat) (order : now ≤ later) :
    align now period ≤ align later period :=
  Nat.mul_le_mul_right period (Nat.div_le_div_right (Nat.add_le_add_right order _))

/-- More cycles from a later tick lead to a later edge. -/
theorem edge_le_edge {now later cycles more : Nat} (period : Nat) (order : now ≤ later)
    (fewer : cycles ≤ more) : edge now cycles period ≤ edge later more period :=
  Nat.add_le_add (align_le_align period order) (Nat.mul_le_mul_right period fewer)

theorem dvd_edge (now cycles period : Nat) : period ∣ edge now cycles period :=
  Nat.dvd_add (Nat.dvd_mul_left period _) (Nat.dvd_mul_left period cycles)

/-- From an edge it is so many periods to the edge that many cycles later. -/
theorem edge_of_dvd {now cycles period : Nat} (pos : 0 < period) (grid : period ∣ now) :
    edge now cycles period = now + cycles * period := by
  obtain ⟨count, rfl⟩ := grid
  have below : period - 1 < period := Nat.sub_lt pos Nat.one_pos
  rw [edge, align, Nat.mul_add_div pos, Nat.div_eq_of_lt below, Nat.add_zero, Nat.mul_comm count]

end Clock

end GatedMemory
