import GatedMemory.Fault

/-!
Sources of random numbers. Nothing but the bound on its numbers is known of a source.
-/

set_option autoImplicit false

namespace GatedMemory

/-- A repeatable source of random numbers: what is drawn is a function of the position. -/
structure RandomStream where
  seed : Nat
  /-- The number that is drawn at a position, and the position after it. -/
  next (bound position : Nat) : Nat × Nat
  next_lt : ∀ {bound position : Nat}, 0 < bound → (next bound position).1 < bound

/-- A number below `bound`, and the position after it. -/
def RandomStream.draw (stream : RandomStream) (bound position : Nat) : Except Fault (Nat × Nat) :=
  if bound = 0 then .error .emptyDraw else .ok (stream.next bound position)

end GatedMemory
