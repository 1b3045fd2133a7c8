import GatedMemory.Proofs.Issuing
import GatedMemory.Proofs.RequestStream

set_option autoImplicit false

namespace GatedMemory

def SourceEvent.answer? : SourceEvent → Option Packet
  | .asked _ answer => answer
  | _ => none

namespace RequestGenerator

/-- The requests that a requester has created, oldest first. It starts with the whole workload
before it, and whoever drives it may make any calls. -/
inductive Generated (workload : Workload) : List Packet → RequestGenerator → Prop where
  | start : Generated workload [] (fresh workload)
  | step {requests : List Packet} {source source' : RequestGenerator} {event : SourceEvent}
    (generated : Generated workload requests source) (takes : source.Takes event source') :
    Generated workload (requests ++ source.newRequests source' event.answer?) source'

variable {workload : Workload} {requests : List Packet} {source source' : RequestGenerator}

theorem Takes.asks_or_keeps {event : SourceEvent} (takes : source.Takes event source') :
    (∃ now, source.next now = .ok (event.answer?, source')) ∨
      source'.workload = source.workload ∧ source'.created = source.created ∧
        source'.position = source.position := by
  cases takes with
  | ask next => exact .inl ⟨_, next⟩
  | accept => exact .inr ⟨rfl, rfl, rfl⟩
  | reject packet => exact .inr ⟨rfl, rfl, rfl⟩
  | answer packet now => exact .inr ⟨rfl, rfl, rfl⟩
  | retry => exact .inr ⟨rfl, rfl, rfl⟩
  | rangeChange => exact .inr ⟨rfl, rfl, rfl⟩

theorem newRequests_of_created_eq (same : source'.created = source.created)
    (offered : Option Packet) : source.newRequests source' offered = [] :=
  if_neg (by omega)

theorem length_of_stream {count : Nat} {result : List Packet × Nat}
    (drawn : stream workload count = .ok result) : result.1.length = count := by
  have numbers := congrArg List.length (stream_ids drawn)
  rwa [List.length_map, List.length_range] at numbers

/-- The addresses of the stream are computed one after the other. -/
theorem stream_getElem? {count number : Nat} {result : List Packet × Nat} {request : Packet}
    (drawn : stream workload count = .ok result) (here : result.1[number]? = some request) :
    ∃ position place, addressOf workload number position = .ok place ∧
      request = requestOf workload number place.1 0 := by
  induction count generalizing result with
  | zero =>
    cases drawn
    cases here
  | succ count ih =>
    obtain ⟨past, before, address, found, grown⟩ := stream_succ drawn
    have length := length_of_stream before
    rw [grown] at here
    rcases Nat.lt_or_ge number count with earlier | last
    · rw [List.getElem?_append_left (length ▸ earlier)] at here
      exact ih before here
    · rw [List.getElem?_append_right (length ▸ last), List.getElem?_singleton] at here
      split at here
      case isTrue zero =>
        obtain rfl : number = count := by omega
        exact ⟨past.2, _, found, (Option.some.inj here).symm⟩
      case isFalse => cases here

section RequestOf

variable (number address now : Nat)

theorem requestOf_address : (requestOf workload number address now).address = address := by
  unfold requestOf
  split <;> rfl

theorem requestOf_size : (requestOf workload number address now).size = Packet.accessSize := by
  unfold requestOf
  split <;> rfl

theorem requestOf_dated : { requestOf workload number address 0 with createdAt := now } =
    requestOf workload number address now := by
  unfold requestOf
  split <;> rfl

end RequestOf

namespace Generated

/-- What a requester creates is the stream of its workload. -/
theorem drawn (generated : Generated workload requests source) : source.workload = workload ∧
    stream workload source.created = .ok (requests.map Packet.undated, source.position) := by
  induction generated with
  | start => exact ⟨rfl, rfl⟩
  | step _ takes ih =>
    rcases takes.asks_or_keeps with ⟨now, next⟩ | ⟨same, created, position⟩
    · exact stream_next ih.1 ih.2 next
    · rwa [newRequests_of_created_eq created, List.append_nil, same, created, position]

variable (generated : Generated workload requests source)
include generated

theorem length_eq : requests.length = source.created := by
  have length := length_of_stream generated.drawn.2
  rwa [List.length_map] at length

/-- Each request is the one of its number, but for the tick at which it was created. -/
theorem eq_requestOf {number : Nat} {request : Packet}
    (here : requests[number]? = some request) :
    ∃ position place, addressOf workload number position = .ok place ∧
      request = requestOf workload number place.1 request.createdAt := by
  have undated : (requests.map Packet.undated)[number]? = some request.undated := by
    rw [List.getElem?_map, here, Option.map_some]
  obtain ⟨position, place, found, same⟩ := stream_getElem? generated.drawn.2 undated
  refine ⟨position, place, found, ?_⟩
  rw [← requestOf_dated]
  exact Packet.eq_of_undated ((requestOf_undated workload number place.1 0).trans same.symm)

theorem created_le : source.created ≤ workload.numRequests := by
  induction generated with
  | start => exact Nat.zero_le _
  | @step _ source _ _ generated takes ih =>
    rcases takes.asks_or_keeps with ⟨now, next⟩ | ⟨-, created, -⟩
    · have nexts := source.next_gives now
      rw [next] at nexts
      generalize SourceEvent.answer? _ = answer at nexts
      cases nexts with
      | idle => exact ih
      | offers offers =>
        cases offers with
        | held => exact ih
        | created _ _ more => exact generated.drawn.1 ▸ (canCreate_iff.1 more).1
    · exact created ▸ ih

theorem quiet {event : SourceEvent} (takes : source.Takes event source')
    (created : source'.created = source.created) : Generated workload requests source' := by
  have next := generated.step takes
  rwa [newRequests_of_created_eq created, List.append_nil] at next

/-- A requester can be brought to hold nothing and to wait for no retry. -/
theorem exists_free : ∃ source', Generated workload requests source' ∧
    source'.awaitsRetry = false ∧ source'.held = none ∧ source'.created = source.created := by
  have retried := generated.quiet .retry rfl
  cases holds : source.held with
  | none => exact ⟨_, retried, rfl, holds, rfl⟩
  | some packet =>
    have next : source.requestRetry.next 0 =
        .ok (some packet, { source.requestRetry with held := none }) := by
      have held : source.requestRetry.held = some packet := holds
      simp only [RequestGenerator.next, held]
      rfl
    exact ⟨_, retried.quiet (.ask next) rfl, rfl, rfl, rfl⟩

theorem exists_answered (count : Nat) : ∃ source', Generated workload requests source' ∧
    source'.awaitsRetry = source.awaitsRetry ∧ source'.held = source.held ∧
    source'.created = source.created ∧ source'.stats.issued = source.stats.issued ∧
    source'.stats.responses = source.stats.responses + count := by
  induction count with
  | zero => exact ⟨source, generated, rfl, rfl, rfl, rfl, rfl⟩
  | succ count ih =>
    obtain ⟨source', answered, awaits, held, created, issued, responses⟩ := ih
    exact ⟨_, answered.quiet (.answer (.read 0 0 0) 0) rfl, awaits, held, created, issued,
      congrArg Nat.succ responses⟩

/-- As long as requests are left, one more can be created. -/
theorem exists_next (line : 0 < workload.lineSize) (addresses : workload.reach < UInt64.size)
    (window : 0 < workload.maxOutstanding) (left : source.created < workload.numRequests) :
    ∃ request source', Generated workload (requests ++ [request]) source' := by
  -- a retry leaves nothing to wait for, and as many responses as requests open the window
  obtain ⟨idle, generated, ready, empty, created⟩ := generated.exists_free
  obtain ⟨source, generated, awaits, held, same, issued, responses⟩ :=
    generated.exists_answered idle.stats.issued
  obtain ⟨configured, -⟩ := generated.drawn
  obtain ⟨result, next, nexts⟩ :=
    (next_cases (configured ▸ line) 0).yields_of_lt (configured ▸ addresses)
  have more : source.canCreate = true := by
    rw [canCreate_iff, configured, inFlight]
    omega
  cases nexts with
  | idle quiet =>
    rw [awaits, ready, more] at quiet
    rcases quiet with waiting | ⟨-, full⟩
    · cases waiting
    · cases full
  | offers offers =>
    cases offers with
    | held _ holds =>
      rw [held, empty] at holds
      cases holds
    | created =>
      have grown := generated.step (.ask next)
      rw [newRequests, if_pos (Nat.lt_succ_self _)] at grown
      exact ⟨_, _, grown⟩

end Generated

/-- Whatever a requester has been through, it can be brought to create the rest of its workload. -/
theorem Generated.exists_all (generated : Generated workload requests source)
    (line : 0 < workload.lineSize) (addresses : workload.reach < UInt64.size)
    (window : 0 < workload.maxOutstanding) :
    ∃ later source', Generated workload (requests ++ later) source' ∧
      (requests ++ later).length = workload.numRequests := by
  obtain ⟨left, rest⟩ := Nat.exists_eq_add_of_le generated.created_le
  induction left generalizing requests source with
  | zero => exact ⟨[], source, by rwa [List.append_nil], by
      rw [List.append_nil, generated.length_eq, rest, Nat.add_zero]⟩
  | succ left ih =>
    obtain ⟨request, source', next⟩ := generated.exists_next line addresses window (by omega)
    have before := generated.length_eq
    have after := next.length_eq
    rw [List.length_append, List.length_singleton] at after
    obtain ⟨later, final, all, whole⟩ := ih next (by omega)
    rw [List.append_assoc] at all whole
    exact ⟨_, final, all, whole⟩

end RequestGenerator

end GatedMemory
