import GatedMemory.Proofs.Outcome
import GatedMemory.Proofs.Run

/-!
The loop of a run: as long as an event is due within the budget of ticks, the next one fires. Here
the loop is a relation, with no bound on the events that it looks at. What it comes to with a budget
is also where it starts from with a larger one.
-/

set_option autoImplicit false

namespace GatedMemory

namespace Simulation

variable {κ ε ρ μ : Type} [Intermediary κ ε] [TrafficSource ρ] [ResponseSource μ]

/-- What comes of the next event, if one is due within the limit. -/
def fireDue (limit : Nat) (sim : Simulation κ ρ μ ε) :
    Option (Except Fault (Option RunError × Simulation κ ρ μ ε)) :=
  (sim.rig.events.takeDue limit).map fun (_, event, events) =>
    handle event { sim with rig := { sim.rig with events } }

/-- What the events within the limit come to, one after the other, however many there are. -/
inductive Drains (limit : Nat) :
    Simulation κ ρ μ ε → Except Fault (Option RunError × Simulation κ ρ μ ε) → Prop where
  | idle {sim : Simulation κ ρ μ ε} (none_due : sim.fireDue limit = none) :
    Drains limit sim (.ok (none, sim))
  | stops {sim : Simulation κ ρ μ ε}
    {outcome : Except Fault (Option RunError × Simulation κ ρ μ ε)}
    (due : sim.fireDue limit = some outcome) (broken : ∀ next, outcome ≠ .ok (none, next)) :
    Drains limit sim outcome
  | fires {sim next : Simulation κ ρ μ ε}
    {outcome : Except Fault (Option RunError × Simulation κ ρ μ ε)}
    (due : sim.fireDue limit = some (.ok (none, next))) (others : Drains limit next outcome) :
    Drains limit sim outcome

variable {limit : Nat} {sim middle : Simulation κ ρ μ ε}
  {outcome other : Except Fault (Option RunError × Simulation κ ρ μ ε)}

theorem fireDue_eq_none_iff : sim.fireDue limit = none ↔ sim.rig.events.takeDue limit = none :=
  Option.map_eq_none_iff

/-- What is due within a limit is due within a larger one. -/
theorem fireDue_mono {second : Nat} (order : limit ≤ second)
    (due : sim.fireDue limit = some outcome) : sim.fireDue second = some outcome := by
  obtain ⟨fired, taken, rfl⟩ := Option.map_eq_some_iff.1 due
  obtain ⟨next, within⟩ := EventQueue.takeDue_eq_some_iff.1 taken
  have later := EventQueue.takeDue_eq_some_iff.2 ⟨next, Nat.le_trans within order⟩
  simp only [fireDue, later, Option.map_some]

theorem advanceWithin_of_due {fuel : Nat} (due : sim.fireDue limit = some outcome) :
    advanceWithin limit (fuel + 1) sim = outcome >>= fun result =>
      match result.1 with
      | some error => .ok (some error, result.2)
      | none => advanceWithin limit fuel result.2 := by
  obtain ⟨⟨tick, event, events⟩, taken, rfl⟩ := Option.map_eq_some_iff.1 due
  simp only [advanceWithin, taken]
  rfl

theorem advanceWithin_of_none {fuel : Nat} (none_due : sim.fireDue limit = none) :
    advanceWithin limit fuel sim = .ok (none, sim) := by
  cases fuel with
  | zero => rfl
  | succ fuel => simp only [advanceWithin, fireDue_eq_none_iff.1 none_due]

/-- What each event keeps unless it ends the run, a run keeps that nothing ended. -/
theorem advanceWithin_gives {faults : Fault → Prop} {holds : Simulation κ ρ μ ε → Prop}
    (keeps : ∀ sim outcome, holds sim → sim.fireDue limit = some outcome →
      Gives faults outcome fun result => result.1 = none → holds result.2)
    (fuel : Nat) (now : holds sim) :
    Gives faults (sim.advanceWithin limit fuel) fun result => result.1 = none → holds result.2 := by
  induction fuel generalizing sim with
  | zero => exact fun _ => now
  | succ fuel ih =>
    cases due : sim.fireDue limit with
    | none =>
      rw [advanceWithin_of_none due]
      exact fun _ => now
    | some outcome =>
      rw [advanceWithin_of_due due]
      apply (keeps sim outcome now due).bind
      rintro ⟨_ | error, next⟩ kept
      · exact ih (kept rfl)
      · exact nofun

namespace Drains

theorem deterministic (drains : Drains limit sim outcome) (again : Drains limit sim other) :
    outcome = other := by
  induction drains with
  | idle none_due =>
    cases again with
    | idle => rfl
    | stops due | fires due => cases none_due.symm.trans due
  | stops due broken =>
    cases again with
    | idle none_due => cases none_due.symm.trans due
    | stops due' => exact Option.some.inj (due.symm.trans due')
    | fires due' => exact absurd (Option.some.inj (due.symm.trans due')) (broken _)
  | fires due others ih =>
    cases again with
    | idle none_due => cases none_due.symm.trans due
    | stops due' broken => exact absurd (Option.some.inj (due'.symm.trans due)) (broken _)
    | fires due' others' =>
      cases due.symm.trans due'
      exact ih others'

/-- The events within the smaller limit come first, and then the others within the larger one. -/
theorem resume {second : Nat} (order : limit ≤ second)
    (drains : Drains limit sim (.ok (none, middle))) (others : Drains second middle outcome) :
    Drains second sim outcome := by
  generalize ended : Except.ok (none, middle) = result at drains
  induction drains with
  | idle none_due =>
    cases ended
    exact others
  | stops due broken => exact absurd ended.symm (broken _)
  | fires due _ ih => exact .fires (fireDue_mono order due) (ih ended)

end Drains

end Simulation

end GatedMemory
