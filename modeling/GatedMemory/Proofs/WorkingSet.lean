import GatedMemory.Proofs.Generated
import Mathlib.Data.Finset.Card
import Mathlib.Data.Finset.Range

set_option autoImplicit false

namespace GatedMemory

/-- The line of the request with this number, where one line follows the other. -/
def Workload.lineOf (workload : Workload) (number : Nat) : Nat :=
  if workload.workingSetLines = 0 then number else number % workload.workingSetLines

theorem Workload.lineOf_lt {workload : Workload} (capped : 0 < workload.workingSetLines)
    (number : Nat) : workload.lineOf number < workload.workingSetLines := by
  rw [lineOf, if_neg (Nat.ne_of_gt capped)]
  exact Nat.mod_lt number capped

/-- All addresses of a working set fit in a word when its size does. -/
theorem Workload.reach_lt {workload : Workload} (capped : 0 < workload.workingSetLines)
    (fits : workload.workingSetLines * workload.lineSize < UInt64.size) :
    workload.reach < UInt64.size := by
  unfold reach
  split
  case h_1 => exact Nat.pos_of_ne_zero (by decide)
  case h_2 => exact fits
  case h_3 =>
    rw [if_neg (Nat.ne_of_gt capped)]
    exact fits

namespace RequestGenerator

variable {workload : Workload} {number position : Nat} {place : Nat × Nat}

theorem addressOf_sequential (sequential : workload.pattern = .sequential)
    (found : addressOf workload number position = .ok place) :
    place.1 = workload.lineOf number * workload.lineSize % UInt64.size := by
  simp only [addressOf, sequential] at found
  cases found
  rfl

/-- A random address is the start of a line below the bound. -/
theorem addressOf_random {stream : RandomStream} (random : workload.pattern = .random stream)
    (capped : 0 < workload.workingSetLines)
    (found : addressOf workload number position = .ok place) :
    ∃ line < workload.workingSetLines, place.1 = line * workload.lineSize := by
  have drawn : Gives Overflow (addressOf workload number position) fun place =>
      place.1 = (stream.next workload.workingSetLines position).1 * workload.lineSize := by
    simp only [addressOf, random, RandomStream.draw, Nat.ne_of_gt capped, ↓reduceIte, ok_bind]
    apply (toWord_gives _ _).bind
    rintro _ rfl
    exact .ok rfl
  exact ⟨_, stream.next_lt capped, drawn.of_eq_ok found⟩

/-- Every address lies in the working set, also where a product wraps. -/
theorem addressOf_lt (line : 0 < workload.lineSize) (capped : 0 < workload.workingSetLines)
    (found : addressOf workload number position = .ok place) :
    place.1 < workload.workingSetLines * workload.lineSize := by
  cases pattern : workload.pattern with
  | sequential =>
    rw [addressOf_sequential pattern found]
    exact Nat.lt_of_le_of_lt (Nat.mod_le _ _)
      (Nat.mul_lt_mul_of_pos_right (Workload.lineOf_lt capped number) line)
  | strided stride =>
    have bytes := Nat.mul_pos capped line
    have reduced : Gives Overflow (addressOf workload number position) fun place =>
        place.1 < workload.workingSetLines * workload.lineSize := by
      simp only [addressOf, pattern, Nat.ne_of_gt capped, ↓reduceIte]
      apply (toWord_gives _ _).bind
      rintro _ rfl
      simp only [Nat.ne_of_gt bytes, ↓reduceIte]
      exact .ok (Nat.mod_lt _ bytes)
    exact reduced.of_eq_ok found
  | random stream =>
    obtain ⟨index, below, address⟩ := addressOf_random pattern capped found
    rw [address]
    exact Nat.mul_lt_mul_of_pos_right below line

/-- A sequential address is where its line starts, unless that is beyond all addresses. -/
theorem addressOf_lineOf (sequential : workload.pattern = .sequential)
    (found : addressOf workload number position = .ok place)
    (fits : workload.lineOf number * workload.lineSize < UInt64.size) :
    place.1 = workload.lineOf number * workload.lineSize := by
  rw [addressOf_sequential sequential found]
  exact Nat.mod_eq_of_lt fits

theorem dvd_addressOf (fits : workload.lineOf number * workload.lineSize < UInt64.size)
    (capped : 0 < workload.workingSetLines)
    (even : ∀ stride, workload.pattern ≠ .strided stride)
    (found : addressOf workload number position = .ok place) : workload.lineSize ∣ place.1 := by
  cases pattern : workload.pattern with
  | sequential =>
    rw [addressOf_lineOf pattern found fits]
    exact Nat.dvd_mul_left _ _
  | strided stride => exact absurd pattern (even stride)
  | random stream =>
    obtain ⟨index, -, address⟩ := addressOf_random pattern capped found
    rw [address]
    exact Nat.dvd_mul_left _ _

/-- What the requests of a workload have to do with the lines of its working set. -/
structure KeepsToWorkingSet (workload : Workload) (requests : List Packet)
    (source : RequestGenerator) : Prop where
  /-- No address lies beyond the working set, -/
  address_lt : ∀ request ∈ requests,
    request.address < workload.workingSetLines * workload.lineSize
  /-- so that no more lines than those of the working set are touched. -/
  lines_le : (requests.map fun request => request.address / workload.lineSize).toFinset.card ≤
    workload.workingSetLines
  /-- Unless the requests are strided, each starts with a line. -/
  aligned : (∀ stride, workload.pattern ≠ .strided stride) →
    ∀ request ∈ requests, workload.lineSize ∣ request.address
  /-- Sequential requests have touched every line when they are as many as the lines. -/
  touched : workload.pattern = .sequential → workload.workingSetLines ≤ requests.length →
    ∀ line < workload.workingSetLines, ∃ request ∈ requests,
      request.address / workload.lineSize = line
  /-- The requester never fails to compute an address, -/
  answers : ∀ now, Yields (source.next now) fun _ => True
  /-- and can be brought to create all of its requests. -/
  exists_all : 0 < workload.maxOutstanding → ∃ later source',
    Generated workload (requests ++ later) source' ∧
      (requests ++ later).length = workload.numRequests

variable {requests : List Packet} {source : RequestGenerator}

/-- Requests below the end of the working set touch no more lines than it has. -/
theorem card_lines_le (line : 0 < workload.lineSize) (below : ∀ request ∈ requests,
    request.address < workload.workingSetLines * workload.lineSize) :
    (requests.map fun request => request.address / workload.lineSize).toFinset.card ≤
      workload.workingSetLines := by
  rw [← Finset.card_range workload.workingSetLines]
  apply Finset.card_le_card
  intro index member
  obtain ⟨request, among, rfl⟩ := List.mem_map.1 (List.mem_toFinset.1 member)
  exact Finset.mem_range.2 ((Nat.div_lt_iff_lt_mul line).2 (below request among))

namespace Generated

variable (generated : Generated workload requests source)
include generated

/-- The address of a request was computed for its number. -/
theorem exists_place {request : Packet} (member : request ∈ requests) :
    ∃ number position place, addressOf workload number position = .ok place ∧
      request.address = place.1 := by
  obtain ⟨number, here⟩ := List.mem_iff_getElem?.1 member
  obtain ⟨position, place, found, same⟩ := generated.eq_requestOf here
  exact ⟨number, position, place, found, same ▸ requestOf_address ..⟩

/-- The address of a sequential request is where its line starts. -/
theorem address_eq_lineOf (sequential : workload.pattern = .sequential) {number : Nat}
    {request : Packet} (here : requests[number]? = some request)
    (fits : workload.lineOf number * workload.lineSize < UInt64.size) :
    request.address = workload.lineOf number * workload.lineSize := by
  obtain ⟨position, place, found, same⟩ := generated.eq_requestOf here
  rw [same, requestOf_address, addressOf_lineOf sequential found fits]

/-- Whatever calls a requester gets, what it creates stays within the working set. -/
theorem keeps_to_working_set (line : 0 < workload.lineSize)
    (capped : 0 < workload.workingSetLines)
    (fits : workload.workingSetLines * workload.lineSize < UInt64.size) :
    KeepsToWorkingSet workload requests source := by
  have starts_below : ∀ number, workload.lineOf number * workload.lineSize < UInt64.size := by
    intro number
    have below := Workload.lineOf_lt capped number
    exact (Nat.mul_lt_mul_of_pos_right below line).trans fits
  have below : ∀ request ∈ requests,
      request.address < workload.workingSetLines * workload.lineSize := by
    intro request member
    obtain ⟨number, position, place, found, address⟩ := generated.exists_place member
    exact address ▸ addressOf_lt line capped found
  have addresses := Workload.reach_lt capped fits
  refine ⟨below, card_lines_le line below, ?_, ?_, ?_, generated.exists_all line addresses⟩
  · intro even request member
    obtain ⟨number, position, place, found, address⟩ := generated.exists_place member
    exact address ▸ dvd_addressOf (starts_below number) capped even found
  · -- the request with the number of the line is the first one to touch it
    intro sequential enough index inside
    have here := List.getElem?_eq_getElem (Nat.lt_of_lt_of_le inside enough)
    have first : workload.lineOf index = index := by
      rw [Workload.lineOf, if_neg (Nat.ne_of_gt capped), Nat.mod_eq_of_lt inside]
    refine ⟨_, List.mem_of_getElem? here, ?_⟩
    rw [generated.address_eq_lineOf sequential here (starts_below index), first,
      Nat.mul_div_cancel _ line]
  · intro now
    have next := next_cases (generated.drawn.1 ▸ line) now
    exact (next.yields_of_lt (generated.drawn.1 ▸ addresses)).mono fun _ _ => trivial

end Generated

/-- Three requests to five lines of 24 bytes. Twice the stride is more than a word holds. -/
def wrappingStride : Workload :=
  { numRequests := 3, pattern := .strided (2 ^ 63 + 40), lineSize := 24, workingSetLines := 5 }

/-- The second request is handed back once, and the third one follows it. -/
theorem keeps_to_working_set_wrapping : ∃ requests source,
    Generated wrappingStride requests source ∧ requests.map Packet.address = [0, 48, 80] ∧
      KeepsToWorkingSet wrappingStride requests source := by
  have first := Generated.start.step (.ask rfl : Takes (fresh wrappingStride) (.asked 1 _) _)
  have taken := first.step .accept
  have second := taken.step (.ask rfl : Takes _ (.asked 2 _) _)
  have refused := second.step (.reject (requestOf wrappingStride 1 48 2))
  have retried := refused.step .retry
  have again := retried.step (.ask rfl : Takes _ (.asked 4 _) _)
  have third := again.step (.ask rfl : Takes _ (.asked 5 _) _)
  exact ⟨_, _, third, by decide +kernel,
    third.keeps_to_working_set (by decide) (by decide) (by decide)⟩

end RequestGenerator

end GatedMemory
