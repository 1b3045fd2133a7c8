import GatedMemory.Proofs.Outcome
import Mathlib.Order.Bounds.Basic
import Mathlib.Order.Monotone.Basic

set_option autoImplicit false

namespace GatedMemory

namespace Clock

variable {period : Nat}

/-- From a tick that is an edge, the first edge at or after it is that tick. -/
theorem align_of_dvd {now : Nat} (pos : 0 < period) (grid : period ∣ now) :
    align now period = now := by
  have same : edge now 0 period = now + 0 * period := edge_of_dvd pos grid
  simpa only [edge, Nat.zero_mul, Nat.add_zero] using same

/-- No edge at or after `now` comes before the one that `align` gives. -/
theorem align_isLeast (pos : 0 < period) (now : Nat) :
    IsLeast {tick | period ∣ tick ∧ now ≤ tick} (align now period) := by
  constructor
  · exact ⟨Nat.dvd_mul_left period _, le_align pos⟩
  · intro tick later
    obtain ⟨grid, order⟩ := later
    rw [← align_of_dvd pos grid]
    exact align_le_align period order

theorem edge_strictMono (pos : 0 < period) (now : Nat) :
    StrictMono fun cycles => edge now cycles period := by
  intro fewer more order
  exact Nat.add_lt_add_left (Nat.mul_lt_mul_of_pos_right order pos) _

theorem edge_monotone (cycles period : Nat) : Monotone fun now => edge now cycles period :=
  fun _ _ order => edge_le_edge period order (Nat.le_refl cycles)

theorem edge_edge (pos : 0 < period) (now first second : Nat) :
    edge (edge now first period) second period = edge now (first + second) period := by
  rw [edge_of_dvd pos (dvd_edge now first period)]
  simp only [edge, Nat.add_mul, Nat.add_assoc]

/-- The cycles of a clock with this period act on its edges. -/
structure ActsOnGrid (period : Nat) : Prop where
  defined : ∀ now cycles, edge now cycles period < UInt64.size →
    edge? now cycles period = .ok (edge now cycles period)
  on_grid : ∀ now cycles, period ∣ edge now cycles period
  least : ∀ now cycles, ∃ first, IsLeast {tick | period ∣ tick ∧ now ≤ tick} first ∧
    edge now cycles period = first + cycles * period
  monotone : ∀ cycles, Monotone fun now => edge now cycles period
  strictMono : ∀ now, StrictMono fun cycles => edge now cycles period
  future : ∀ now cycles, 1 ≤ cycles → now < edge now cycles period
  soon : ∀ now cycles, edge now cycles period ≤ now + (cycles + 1) * period - 1
  composes : ∀ now first second,
    edge (edge now first period) second period = edge now (first + second) period

theorem actsOnGrid (pos : 0 < period) : ActsOnGrid period where
  defined _ _ fits := by
    simp only [edge?, Nat.ne_of_gt pos, ↓reduceIte, toWord_of_lt fits]
  on_grid now cycles := dvd_edge now cycles period
  least now _ := ⟨align now period, align_isLeast pos now, rfl⟩
  monotone cycles := edge_monotone cycles period
  strictMono := edge_strictMono pos
  future _ _ cycle := lt_edge pos cycle
  soon _ _ := Nat.le_sub_one_of_lt (edge_lt pos)
  composes := edge_edge pos

end Clock

end GatedMemory
