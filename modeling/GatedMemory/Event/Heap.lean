import GatedMemory.Event.Queue

/-!
A heap of scheduled events: a tree in which no event fires before the one above it. Two heaps are
merged along their right edges, and the parts change sides on the way, which keeps those edges
short.
-/

set_option autoImplicit false

namespace GatedMemory

/-- A tree of scheduled events. -/
inductive EventHeap (α : Type) where
  | empty
  | node (first : EventEntry α) (left right : EventHeap α)

namespace EventHeap

variable {α : Type}

/-- The event at the top. -/
def top? : EventHeap α → Option (EventEntry α)
  | empty => none
  | node first _ _ => some first

/-- All events, those further up first. -/
def toList : EventHeap α → List (EventEntry α)
  | empty => []
  | node first left right => first :: (left.toList ++ right.toList)

theorem top?_eq_none_iff {heap : EventHeap α} : heap.top? = none ↔ heap = empty := by
  cases heap <;> simp [top?]

theorem top?_eq_some_iff {heap : EventHeap α} {entry : EventEntry α} :
    heap.top? = some entry ↔ ∃ left right, heap = node entry left right := by
  cases heap <;> simp [top?, eq_comm]

def size : EventHeap α → Nat
  | empty => 0
  | node _ left right => left.size + right.size + 1

/-- Merges another heap into the one with these parts, given how to merge one into its right
part. -/
def meldWith (first : EventEntry α) (left right : EventHeap α) (into : EventHeap α → EventHeap α) :
    EventHeap α → EventHeap α
  | empty => node first left right
  | node other left' right' =>
    if other.Precedes first then node other (meldWith first left right into right') left'
    else node first (into (node other left' right')) left

/-- The events of two heaps. -/
def merge : EventHeap α → EventHeap α → EventHeap α
  | empty => fun other => other
  | node first left right => meldWith first left right (merge right)

/-- Adds an event. -/
def push (entry : EventEntry α) (heap : EventHeap α) : EventHeap α :=
  merge heap (node entry empty empty)

/-- Takes the event at the top. -/
def pop : EventHeap α → EventHeap α
  | empty => empty
  | node _ left right => merge left right

theorem meldWith_perm {first : EventEntry α} {left right : EventHeap α}
    {into : EventHeap α → EventHeap α}
    (keeps : ∀ other, (into other).toList.Perm (right.toList ++ other.toList))
    (other : EventHeap α) :
    (meldWith first left right into other).toList.Perm
      ((node first left right).toList ++ other.toList) := by
  induction other with
  | empty => exact .of_eq (List.append_nil _).symm
  | node top left' right' _ ih =>
    unfold meldWith
    split
    · calc top :: ((meldWith first left right into right').toList ++ left'.toList)
        _ |>.Perm (top :: ((node first left right).toList ++ right'.toList ++ left'.toList)) :=
          (ih.append_right _).cons top
        _ = top :: ((node first left right).toList ++ (right'.toList ++ left'.toList)) := by
          rw [List.append_assoc]
        _ |>.Perm (top :: ((node first left right).toList ++ (left'.toList ++ right'.toList))) :=
          (List.perm_append_comm.append_left _).cons top
        _ |>.Perm ((node first left right).toList ++ (node top left' right').toList) :=
          List.perm_middle.symm
    · calc first :: ((into (node top left' right')).toList ++ left.toList)
        _ |>.Perm (first :: (right.toList ++ (node top left' right').toList ++ left.toList)) :=
          ((keeps _).append_right _).cons first
        _ |>.Perm (first :: (left.toList ++ (right.toList ++ (node top left' right').toList))) :=
          List.perm_append_comm.cons first
        _ = (node first left right).toList ++ (node top left' right').toList := by
          rw [← List.append_assoc]
          rfl

theorem merge_perm (heap other : EventHeap α) :
    (merge heap other).toList.Perm (heap.toList ++ other.toList) := by
  induction heap generalizing other with
  | empty => exact .refl _
  | node first left right _ ih => exact meldWith_perm ih other

theorem length_toList (heap : EventHeap α) : heap.toList.length = heap.size := by
  induction heap with
  | empty => rfl
  | node first left right ihLeft ihRight =>
    rw [toList, List.length_cons, List.length_append, ihLeft, ihRight, size]

theorem size_merge (heap other : EventHeap α) :
    (merge heap other).size = heap.size + other.size := by
  rw [← length_toList, (merge_perm heap other).length_eq, List.length_append, length_toList,
    length_toList]

theorem push_perm (entry : EventEntry α) (heap : EventHeap α) :
    (heap.push entry).toList.Perm (entry :: heap.toList) :=
  (merge_perm heap _).trans List.perm_append_comm

/-- The first event fires before any other of the heap, and so in each part. -/
def Ordered : EventHeap α → Prop
  | empty => True
  | node first left right =>
    (∀ entry ∈ left.toList ++ right.toList, ¬ entry.Precedes first) ∧ left.Ordered ∧ right.Ordered

theorem ordered_node {first : EventEntry α} {left right : EventHeap α} :
    (node first left right).Ordered ↔
      (∀ entry ∈ left.toList ++ right.toList, ¬ entry.Precedes first) ∧
        left.Ordered ∧ right.Ordered :=
  .rfl

theorem meldWith_ordered {first : EventEntry α} {left right : EventHeap α}
    {into : EventHeap α → EventHeap α}
    (keeps : ∀ other, (into other).toList.Perm (right.toList ++ other.toList))
    (orders : ∀ other, other.Ordered → (into other).Ordered)
    (ordered : (node first left right).Ordered) {other : EventHeap α} (apart : other.Ordered) :
    (meldWith first left right into other).Ordered := by
  obtain ⟨below, leftOrdered, -⟩ := ordered_node.1 ordered
  induction other with
  | empty => exact ordered
  | node top left' right' _ ih =>
    obtain ⟨below', leftOrdered', rightOrdered'⟩ := ordered_node.1 apart
    unfold meldWith
    by_cases before : top.Precedes first
    · rw [if_pos before]
      refine ordered_node.2 ⟨fun entry member => ?_, ih rightOrdered', leftOrdered'⟩
      have melded : (meldWith first left right into right').toList.Perm
          ((node first left right).toList ++ right'.toList) := meldWith_perm keeps right'
      simp only [List.mem_append, melded.mem_iff, toList, List.mem_cons] at member below below'
      rcases member with ((rfl | old) | new) | new
      · exact before.not_precedes
      · exact EventEntry.not_precedes_trans before.not_precedes (below entry old)
      · exact below' entry (.inr new)
      · exact below' entry (.inl new)
    · rw [if_neg before]
      refine ordered_node.2 ⟨fun entry member => ?_, orders _ apart, leftOrdered⟩
      simp only [List.mem_append, (keeps _).mem_iff, toList, List.mem_cons] at member below below'
      rcases member with (old | rfl | new) | old
      · exact below entry (.inr old)
      · exact before
      · exact EventEntry.not_precedes_trans before (below' entry new)
      · exact below entry (.inl old)

theorem merge_ordered {heap other : EventHeap α} (ordered : heap.Ordered)
    (apart : other.Ordered) : (merge heap other).Ordered := by
  induction heap generalizing other with
  | empty => exact apart
  | node first left right _ ih =>
    exact meldWith_ordered (merge_perm right) (fun _ apart => ih ordered.2.2 apart) ordered apart

theorem push_ordered {heap : EventHeap α} (ordered : heap.Ordered) (entry : EventEntry α) :
    (heap.push entry).Ordered :=
  merge_ordered ordered ⟨nofun, trivial, trivial⟩

end EventHeap

end GatedMemory
