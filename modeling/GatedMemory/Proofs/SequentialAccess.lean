import GatedMemory.Proofs.WorkingSet

set_option autoImplicit false

namespace GatedMemory

namespace AddressRange

def starting (start size : Nat) : AddressRange :=
  ⟨start, start + size, Nat.le_add_right start size⟩

/-- The ranges have no address in common. -/
def Apart (range other : AddressRange) : Prop :=
  ∀ address, ¬ (range.contains address = true ∧ other.contains address = true)

theorem contains_starting_iff {start size address : Nat} :
    (starting start size).contains address = true ↔ start ≤ address ∧ address < start + size := by
  rw [contains, Bool.and_eq_true, decide_eq_true_eq, decide_eq_true_eq]
  rfl

theorem apart_starting_iff {start other size : Nat} (pos : 0 < size) :
    (starting start size).Apart (starting other size) ↔
      start + size ≤ other ∨ other + size ≤ start := by
  simp only [Apart, contains_starting_iff]
  constructor
  · intro apart
    have := apart (max start other)
    omega
  · intro order address
    omega

end AddressRange

def Packet.bytes (packet : Packet) : AddressRange :=
  .starting packet.address packet.size

namespace RequestGenerator

variable {workload : Workload} {requests : List Packet} {source : RequestGenerator}

/-- Each sequential request accesses the same number of bytes from the start of its line on. -/
theorem Generated.bytes_eq (generated : Generated workload requests source)
    (sequential : workload.pattern = .sequential) {number : Nat} {request : Packet}
    (here : requests[number]? = some request)
    (fits : workload.lineOf number * workload.lineSize < UInt64.size) :
    request.bytes =
      .starting (workload.lineOf number * workload.lineSize) Packet.accessSize := by
  obtain ⟨position, place, -, same⟩ := generated.eq_requestOf here
  have size : request.size = Packet.accessSize := same ▸ requestOf_size ..
  rw [Packet.bytes, generated.address_eq_lineOf sequential here fits, size]

/-- The bytes that sequential requests access. -/
structure SweepsLines (workload : Workload) (requests : List Packet) : Prop where
  /-- Each request accesses as many bytes as every other one, from the start of its line on. -/
  bytes : ∀ (number : Nat) (request : Packet), requests[number]? = some request →
    request.bytes =
      .starting (workload.lineOf number * workload.lineSize) Packet.accessSize
  /-- If the working set has no limit, no byte is accessed twice exactly when no line is shorter
  than an access, -/
  apart_iff : workload.workingSetLines = 0 → 2 ≤ requests.length →
    ((requests.Pairwise fun first second => first.bytes.Apart second.bytes) ↔
      Packet.accessSize ≤ workload.lineSize)
  /-- and each request accesses its own line, all of it and no more, exactly when a line is as long
  as an access. -/
  tiles_iff : workload.workingSetLines = 0 → requests ≠ [] →
    ((∀ (number : Nat) (request : Packet), requests[number]? = some request →
      request.bytes = .starting (number * workload.lineSize) workload.lineSize) ↔
      workload.lineSize = Packet.accessSize)
  /-- If it has a limit, no access goes beyond it exactly when no line is shorter than an access. -/
  inside_iff : 0 < workload.workingSetLines → workload.workingSetLines ≤ requests.length →
    ((∀ request ∈ requests,
      request.bytes.stop ≤ workload.workingSetLines * workload.lineSize) ↔
      Packet.accessSize ≤ workload.lineSize)

section

variable (bytes : ∀ (number : Nat) (request : Packet), requests[number]? = some request →
  request.bytes = .starting (workload.lineOf number * workload.lineSize) Packet.accessSize)
include bytes

theorem pairwise_apart_iff (unlimited : workload.workingSetLines = 0)
    (several : 2 ≤ requests.length) :
    (requests.Pairwise fun first second => first.bytes.Apart second.bytes) ↔
      Packet.accessSize ≤ workload.lineSize := by
  have apart_iff : ∀ (first second : Nat) (here : first < requests.length)
      (there : second < requests.length), requests[first].bytes.Apart requests[second].bytes ↔
        first * workload.lineSize + Packet.accessSize ≤ second * workload.lineSize ∨
        second * workload.lineSize + Packet.accessSize ≤ first * workload.lineSize := by
    intro first second here there
    rw [bytes _ _ (List.getElem?_eq_getElem here), bytes _ _ (List.getElem?_eq_getElem there),
      AddressRange.apart_starting_iff (by decide)]
    simp only [Workload.lineOf, unlimited, ↓reduceIte]
  rw [List.pairwise_iff_getElem]
  constructor
  · intro apart
    have neighbours := (apart_iff 0 1 (by omega) (by omega)).1 (apart 0 1 _ _ Nat.zero_lt_one)
    omega
  · intro long first second here there order
    have later := Nat.mul_le_mul_right workload.lineSize (Nat.succ_le_of_lt order)
    rw [Nat.succ_mul] at later
    exact (apart_iff first second here there).2 (.inl (by omega))

theorem tiles_iff (unlimited : workload.workingSetLines = 0) (some_request : requests ≠ []) :
    (∀ (number : Nat) (request : Packet), requests[number]? = some request →
      request.bytes = .starting (number * workload.lineSize) workload.lineSize) ↔
      workload.lineSize = Packet.accessSize := by
  constructor
  · intro tiles
    have here := List.getElem?_eq_getElem (List.length_pos_iff.2 some_request)
    have both := (tiles _ _ here).symm.trans (bytes _ _ here)
    have stops := congrArg AddressRange.stop both
    simp only [AddressRange.starting, Workload.lineOf, unlimited, ↓reduceIte] at stops
    omega
  · intro same number request here
    rw [bytes number request here, Workload.lineOf, if_pos unlimited, same]

theorem inside_iff (capped : 0 < workload.workingSetLines)
    (enough : workload.workingSetLines ≤ requests.length) :
    (∀ request ∈ requests,
      request.bytes.stop ≤ workload.workingSetLines * workload.lineSize) ↔
      Packet.accessSize ≤ workload.lineSize := by
  constructor
  · intro inside
    obtain ⟨last, lines⟩ := Nat.exists_eq_add_of_le' capped
    have there : last < requests.length := by omega
    have stops := inside _ (List.getElem_mem there)
    rw [bytes _ _ (List.getElem?_eq_getElem there), Workload.lineOf, lines,
      if_neg (Nat.succ_ne_zero last), Nat.mod_eq_of_lt (Nat.lt_succ_self last),
      Nat.succ_mul] at stops
    exact Nat.le_of_add_le_add_left stops
  · intro long request member
    obtain ⟨number, here⟩ := List.mem_iff_getElem?.1 member
    have whole := Nat.mul_le_mul_right workload.lineSize
      (Nat.succ_le_of_lt (Workload.lineOf_lt capped number))
    rw [Nat.succ_mul] at whole
    rw [bytes number request here]
    exact Nat.le_trans (Nat.add_le_add_left long _) whole

end

/-- Sequential requests access so many bytes from the start of each line on. That they tile memory,
and that they keep within the working set, depends on how long a line is. -/
theorem Generated.sweeps_lines (generated : Generated workload requests source)
    (sequential : workload.pattern = .sequential)
    (fits : ∀ number < requests.length,
      workload.lineOf number * workload.lineSize < UInt64.size) :
    SweepsLines workload requests := by
  have bytes : ∀ (number : Nat) (request : Packet), requests[number]? = some request →
      request.bytes =
        .starting (workload.lineOf number * workload.lineSize) Packet.accessSize := by
    intro number request here
    obtain ⟨inside, -⟩ := List.getElem?_eq_some_iff.1 here
    exact generated.bytes_eq sequential here (fits number inside)
  exact ⟨bytes, pairwise_apart_iff bytes, tiles_iff bytes, inside_iff bytes⟩

/-- Three requests to two lines of 48 bytes. -/
def twoShortLines : Workload :=
  { numRequests := 3, lineSize := 48, workingSetLines := 2 }

/-- The third request starts over, and the first line is accessed again. -/
theorem sweeps_lines_starting_over : ∃ requests source,
    Generated twoShortLines requests source ∧ requests.map Packet.address = [0, 48, 0] ∧
      SweepsLines twoShortLines requests := by
  have first := Generated.start.step (.ask rfl : Takes (fresh twoShortLines) (.asked 0 _) _)
  have second := first.step (.ask rfl : Takes _ (.asked 0 _) _)
  have third := second.step (.ask rfl : Takes _ (.asked 0 _) _)
  refine ⟨_, _, third, rfl, third.sweeps_lines rfl fun number _ => ?_⟩
  have below : twoShortLines.lineOf number < 2 := Workload.lineOf_lt (by decide) number
  change twoShortLines.lineOf number * 48 < 18446744073709551616
  omega

/-- Two requests to lines of 32 bytes. -/
def shortLines : Workload :=
  { numRequests := 2, lineSize := 32 }

/-- A request to a short line accesses bytes of the next line too. -/
theorem short_lines_overlap : ∃ first second source,
    Generated shortLines [first, second] source ∧
      first.bytes = .starting 0 64 ∧ second.bytes = .starting 32 64 ∧
      ¬ first.bytes.Apart second.bytes := by
  have one := Generated.start.step (.ask rfl : Takes (fresh shortLines) (.asked 0 _) _)
  have both := one.step (.ask rfl : Takes _ (.asked 0 _) _)
  refine ⟨_, _, _, both, rfl, rfl, fun apart => apart 40 ?_⟩
  decide

end RequestGenerator

end GatedMemory
