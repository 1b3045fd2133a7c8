import GatedMemory.Proofs.Episodes
import GatedMemory.Proofs.Peers

set_option autoImplicit false

namespace GatedMemory

/-- What passes between a requester and whoever drives it. -/
inductive SourceEvent where
  /-- The requester was asked for a request, with this answer. -/
  | asked (now : Nat) (answer : Option Packet)
  /-- The request that was offered last was taken. -/
  | accepted
  /-- The request that was offered last came back. -/
  | rejected (packet : Packet)
  /-- A response arrived. -/
  | answered (packet : Packet) (now : Nat)
  /-- Requests are taken again. -/
  | retried
  | rangeChanged
deriving DecidableEq

/-- What a history tells of a requester. -/
structure Ledger where
  /-- The requests that were taken, oldest first. -/
  taken : List Packet := []
  /-- Number of requests that were offered, not counting those that were offered again. -/
  created : Nat := 0
  /-- The request that was offered and neither taken nor handed back yet. -/
  pending : Option Packet := none
  /-- The request that was handed back and not offered again yet. -/
  held : Option Packet := none
  /-- A request was handed back, and no retry came since. -/
  waiting : Bool := false
  responses : Nat := 0

namespace Ledger

def enter (ledger : Ledger) : SourceEvent → Ledger
  | .asked _ none => ledger
  | .asked _ (some packet) =>
    { ledger with
      created := if ledger.held.isSome then ledger.created else ledger.created + 1
      pending := some packet
      held := none }
  | .accepted => { ledger with taken := ledger.taken ++ ledger.pending.toList, pending := none }
  | .rejected packet => { ledger with pending := none, held := some packet, waiting := true }
  | .answered _ _ => { ledger with responses := ledger.responses + 1 }
  | .retried => { ledger with waiting := false }
  | .rangeChanged => ledger

def ofHistory (history : List SourceEvent) : Ledger :=
  history.foldl enter {}

@[simp] theorem ofHistory_concat (history : List SourceEvent) (event : SourceEvent) :
    ofHistory (history ++ [event]) = (ofHistory history).enter event :=
  List.foldl_concat ..

/-- The rules for whoever drives a requester: an offer is taken or handed back before the next one
is asked for, and there are no more responses than requests that were taken. -/
def Allows (ledger : Ledger) : SourceEvent → Prop
  | .asked _ _ => ledger.pending = none
  | .accepted => ledger.pending.isSome = true
  | .rejected packet => ledger.pending = some packet
  | .answered _ _ => ledger.responses < ledger.taken.length
  | .retried => True
  | .rangeChanged => True

/-- What a requester answers when it is asked for a request. -/
structure Answers (workload : Workload) (ledger : Ledger) (now : Nat) (answer : Option Packet) :
    Prop where
  waits : ledger.waiting = true → answer = none
  again : ledger.waiting = false → ∀ packet, ledger.held = some packet → answer = some packet
  fresh : ∀ packet, answer = some packet → ledger.held = none →
    packet.id = ledger.created ∧ packet.createdAt = now
  silent : ledger.waiting = false → (answer = none ↔ ledger.held = none ∧
    (workload.numRequests ≤ ledger.created ∨
      workload.maxOutstanding ≤ ledger.taken.length - ledger.responses))

section Answers

variable {workload : Workload} {ledger : Ledger} {now : Nat} {packet : Packet}

theorem answers_none (quiet : ledger.waiting = true ∨ ledger.held = none ∧
    (workload.numRequests ≤ ledger.created ∨
      workload.maxOutstanding ≤ ledger.taken.length - ledger.responses)) :
    ledger.Answers workload now none := by
  refine ⟨fun _ => rfl, ?_, nofun, ?_⟩ <;> intro ready <;> rw [ready] at quiet
  · intro packet held
    rcases quiet with waiting | ⟨empty, -⟩
    · cases waiting
    · exact empty.symm.trans held
  · rcases quiet with waiting | idle
    · cases waiting
    · exact ⟨fun _ => idle, fun _ => rfl⟩

theorem answers_held (ready : ledger.waiting = false) (held : ledger.held = some packet) :
    ledger.Answers workload now (some packet) := by
  refine ⟨?_, ?_, ?_, ?_⟩
  · intro waiting
    exact absurd (ready.symm.trans waiting) Bool.false_ne_true
  · intro _ other same
    exact held.symm.trans same
  · intro other _ empty
    exact absurd (held.symm.trans empty) (Option.some_ne_none packet)
  · intro _
    simp only [held, reduceCtorEq, false_and]

theorem answers_new (ready : ledger.waiting = false) (empty : ledger.held = none)
    (left : ledger.created < workload.numRequests)
    (inside : ledger.taken.length - ledger.responses < workload.maxOutstanding)
    (id : packet.id = ledger.created) (createdAt : packet.createdAt = now) :
    ledger.Answers workload now (some packet) := by
  refine ⟨?_, ?_, ?_, ?_⟩
  · intro waiting
    exact absurd (ready.symm.trans waiting) Bool.false_ne_true
  · intro _ other held
    exact absurd (held.symm.trans empty) (Option.some_ne_none other)
  · intro other same _
    obtain rfl := Option.some.inj same
    exact ⟨id, createdAt⟩
  · intro _
    simp only [reduceCtorEq, false_iff]
    omega

end Answers

/-- The answers of a requester are told by what happened before. -/
def Lawful (workload : Workload) (history : List SourceEvent) : SourceEvent → Prop
  | .asked now answer => (ofHistory history).Answers workload now answer
  | _ => True

end Ledger

namespace RequestGenerator

/-- One event of a requester, and the requester after it. -/
inductive Takes (source : RequestGenerator) : SourceEvent → RequestGenerator → Prop where
  | ask {now : Nat} {answer : Option Packet} {source' : RequestGenerator}
    (next : source.next now = .ok (answer, source')) : Takes source (.asked now answer) source'
  | accept : Takes source .accepted source.accepted
  | reject (packet : Packet) : Takes source (.rejected packet) (source.rejected packet)
  | answer (packet : Packet) (now : Nat) :
    Takes source (.answered packet now) (source.offer packet now).2
  | retry : Takes source .retried source.requestRetry
  | rangeChange : Takes source .rangeChanged source.rangeChange

/-- A history of a requester that starts with the whole workload before it, by the rules. -/
inductive Issued (workload : Workload) : List SourceEvent → RequestGenerator → Prop where
  | start : Issued workload [] (fresh workload)
  | step {history : List SourceEvent} {source source' : RequestGenerator} {event : SourceEvent}
    (issued : Issued workload history source) (takes : source.Takes event source')
    (allowed : (Ledger.ofHistory history).Allows event) :
    Issued workload (history ++ [event]) source'

variable {workload : Workload} {ledger : Ledger} {source source' : RequestGenerator} {now : Nat}
  {packet : Packet}

structure Told (workload : Workload) (ledger : Ledger) (source : RequestGenerator) : Prop where
  configured : source.workload = workload
  created : source.created = ledger.created
  held : source.held = ledger.held
  waiting : source.awaitsRetry = ledger.waiting
  issued : source.stats.issued = ledger.taken.length
  responses : source.stats.responses = ledger.responses
  answered : ledger.responses ≤ ledger.taken.length
  single : ledger.pending = none ∨ ledger.held = none
  order : ledger.taken.map Packet.id ++ ledger.pending.toList.map Packet.id ++
    ledger.held.toList.map Packet.id = List.range ledger.created
  bounded : ledger.created ≤ workload.numRequests
  window : ledger.created ≤ ledger.responses + workload.maxOutstanding

namespace Told

theorem start : Told workload {} (fresh workload) where
  configured := rfl
  created := rfl
  held := rfl
  waiting := rfl
  issued := rfl
  responses := rfl
  answered := Nat.le_refl _
  single := .inl rfl
  order := rfl
  bounded := Nat.zero_le _
  window := Nat.zero_le _

variable (told : Told workload ledger source)
include told

/-- What was created was taken, or waits to be taken. -/
theorem created_eq : ledger.created =
    ledger.taken.length + ledger.pending.toList.length + ledger.held.toList.length := by
  have lengths := congrArg List.length told.order
  simpa only [List.length_append, List.length_map, List.length_range] using lengths.symm

theorem canCreate_iff : source.canCreate = true ↔ ledger.created < workload.numRequests ∧
    ledger.taken.length - ledger.responses < workload.maxOutstanding := by
  rw [RequestGenerator.canCreate_iff, inFlight, told.configured, told.created, told.issued,
    told.responses]

theorem quiet
    (quiet : source.awaitsRetry = true ∨ source.held = none ∧ source.canCreate = false) :
    ledger.Answers workload now none := by
  rw [told.waiting, told.held] at quiet
  rcases quiet with waiting | ⟨empty, full⟩
  · exact Ledger.answers_none (.inl waiting)
  · have none_left := mt told.canCreate_iff.2 (Bool.eq_false_iff.1 full)
    exact Ledger.answers_none (.inr ⟨empty, by omega⟩)

theorem again (idle : ledger.pending = none) (holds : source.held = some packet) (now : Nat) :
    Told workload (ledger.enter (.asked now (some packet))) { source with held := none } := by
  have held : ledger.held = some packet := told.held ▸ holds
  have created : (ledger.enter (.asked now (some packet))).created = ledger.created := by
    simp only [Ledger.enter, held, Option.isSome_some, ↓reduceIte]
  have order := told.order
  rw [idle, held, Option.toList_none, List.map_nil, List.append_nil] at order
  refine { told with
    created := ?_, held := rfl, single := .inr rfl, order := ?_, bounded := ?_, window := ?_ } <;>
    rw [created]
  · exact told.created
  · exact (List.append_nil _).trans order
  · exact told.bounded
  · exact told.window

theorem create (position : Nat) (idle : ledger.pending = none) (empty : source.held = none)
    (more : source.canCreate = true) (id : packet.id = ledger.created) (now : Nat) :
    Told workload (ledger.enter (.asked now (some packet)))
      { source with created := source.created + 1, position } := by
  have none_held : ledger.held = none := told.held ▸ empty
  have created : (ledger.enter (.asked now (some packet))).created = ledger.created + 1 := by
    simp only [Ledger.enter, none_held, Option.isSome_none, Bool.false_eq_true, ↓reduceIte]
  obtain ⟨left, inside⟩ := told.canCreate_iff.1 more
  have order := told.order
  have counted := told.created_eq
  have answered := told.answered
  rw [idle, none_held, Option.toList_none, List.map_nil, List.append_nil, List.append_nil] at order
  rw [idle, none_held, Option.toList_none, List.length_nil] at counted
  refine { told with
    created := ?_, held := empty, single := .inr rfl, order := ?_, bounded := ?_, window := ?_ } <;>
    rw [created]
  · exact congrArg Nat.succ told.created
  · rw [List.range_succ, ← order, ← id]
    exact List.append_nil _
  · exact left
  · show ledger.created + 1 ≤ ledger.responses + workload.maxOutstanding
    omega

/-- Whatever the requester answers, the ledger tells it. -/
theorem ask (idle : ledger.pending = none) (now : Nat) :
    Gives workload.Faults (source.next now) fun result =>
      ledger.Answers workload now result.1 ∧
        Told workload (ledger.enter (.asked now result.1)) result.2 := by
  have gives := source.next_gives now
  rw [told.configured] at gives
  apply gives.mono
  intro result nexts
  cases nexts with
  | idle quiet => exact ⟨told.quiet quiet, told⟩
  | offers offers =>
    cases offers with
    | held free holds =>
      exact ⟨Ledger.answers_held (told.waiting ▸ free) (told.held ▸ holds),
        told.again idle holds now⟩
    | @created address position free empty more =>
      have id : (requestOf source.workload source.created address now).id = ledger.created :=
        requestOf_id.trans told.created
      obtain ⟨left, inside⟩ := told.canCreate_iff.1 more
      exact ⟨Ledger.answers_new (told.waiting ▸ free) (told.held ▸ empty) left inside id
        requestOf_createdAt, told.create position idle empty more id now⟩

/-- Nothing is held while an offer is open. -/
theorem held_eq (offered : ledger.pending = some packet) : ledger.held = none := by
  rcases told.single with closed | empty
  · rw [closed] at offered
    cases offered
  · exact empty

theorem accept (offered : ledger.pending.isSome = true) :
    Told workload (ledger.enter .accepted) source.accepted := by
  obtain ⟨packet, pending⟩ := Option.isSome_iff_exists.1 offered
  have order := told.order
  have answered := told.answered
  have issued := told.issued
  rw [pending] at order
  refine { told with issued := ?_, answered := ?_, single := .inl rfl, order := ?_ } <;>
    simp only [Ledger.enter, pending, Option.toList_some, Option.toList_none, List.map_append,
      List.map_nil, List.append_nil, List.length_append, List.length_singleton]
  · exact congrArg Nat.succ issued
  · omega
  · exact order

theorem reject (offered : ledger.pending = some packet) :
    Told workload (ledger.enter (.rejected packet)) (source.rejected packet) := by
  have empty := told.held_eq offered
  have order := told.order
  rw [offered, empty] at order
  refine { told with held := rfl, waiting := rfl, single := .inl rfl, order := ?_ }
  simpa only [Ledger.enter, Option.toList_none, Option.toList_some, List.map_nil,
    List.append_nil] using order

theorem answer (owed : ledger.responses < ledger.taken.length) (answer : Packet) (now : Nat) :
    Told workload (ledger.enter (.answered answer now)) (source.offer answer now).2 :=
  { told with
    responses := congrArg Nat.succ told.responses
    answered := owed
    window := Nat.le_trans told.window (Nat.add_le_add_right (Nat.le_succ _) _) }

theorem step {event : SourceEvent} (takes : source.Takes event source')
    (allowed : ledger.Allows event) : Told workload (ledger.enter event) source' := by
  cases takes with
  | @ask now _ _ next =>
    have asked := told.ask allowed now
    rw [next] at asked
    exact asked.2
  | accept => exact told.accept allowed
  | reject packet => exact told.reject allowed
  | answer packet now => exact told.answer allowed packet now
  | retry => exact { told with waiting := rfl }
  | rangeChange => exact { told with }

/-- The requests that were taken are the first ones of the workload. -/
theorem taken_eq : ledger.taken.map Packet.id = List.range ledger.taken.length := by
  have order := congrArg (List.take ledger.taken.length) told.order
  rw [List.append_assoc, List.take_append_of_le_length (by simp), List.take_of_length_le (by simp),
    List.take_range] at order
  rw [order, told.created_eq]
  congr 1
  omega

end Told

theorem Issued.told {history : List SourceEvent} (issued : Issued workload history source) :
    Told workload (Ledger.ofHistory history) source := by
  induction issued with
  | start => exact .start
  | step _ takes allowed told =>
    rw [Ledger.ofHistory_concat]
    exact told.step takes allowed

theorem Issued.lawful {history : List SourceEvent} (issued : Issued workload history source) :
    Throughout (Ledger.Lawful workload) history := by
  induction issued with
  | start => exact .nil
  | step issued takes allowed lawful =>
    refine lawful.concat ?_
    cases takes with
    | @ask now _ _ next =>
      have asked := issued.told.ask allowed now
      rw [next] at asked
      exact asked.1
    | _ => trivial

/-- How a requester issues its workload, in terms of its history alone. -/
structure IssuesInOrder (workload : Workload) (history : List SourceEvent)
    (source : RequestGenerator) : Prop where
  /-- Each request is taken once, in the order of the workload. -/
  order : (Ledger.ofHistory history).taken.map Packet.id =
    List.range (Ledger.ofHistory history).taken.length
  bounded : (Ledger.ofHistory history).taken.length ≤ workload.numRequests
  /-- The counters of the requester are right. -/
  issued : source.stats.issued = (Ledger.ofHistory history).taken.length
  responses : source.stats.responses = (Ledger.ofHistory history).responses
  /-- The window is never exceeded. -/
  window : source.stats.issued ≤ source.stats.responses + workload.maxOutstanding
  /-- Each answer was as the history before it tells, -/
  lawful : Throughout (Ledger.Lawful workload) history
  /-- and so is the next one, unless its address cannot be computed. -/
  next : (Ledger.ofHistory history).pending = none → ∀ now,
    Gives workload.Faults (source.next now) fun result =>
      (Ledger.ofHistory history).Answers workload now result.1

/-- A requester issues the requests of its workload once each, in order and within the window.
While it waits for a retry it gives none, and after that the one that was handed back; it gives a
new one exactly when some are left and the window is not full. -/
theorem issues_in_order {history : List SourceEvent} (issued : Issued workload history source) :
    IssuesInOrder workload history source := by
  have told := issued.told
  have counted := told.created_eq
  have bounded := told.bounded
  have window := told.window
  refine ⟨told.taken_eq, ?_, told.issued, told.responses, ?_, issued.lawful, ?_⟩
  · omega
  · rw [told.issued, told.responses]
    omega
  · intro idle now
    exact (told.ask idle now).mono fun _ both => both.1

/-- Two requests with a window of one. -/
def singleFile : Workload :=
  { numRequests := 2, maxOutstanding := 1 }

/-- The first request is handed back, and goes out again after the retry, not before; the second
follows when the response is there. A retry that nobody waits for changes nothing. -/
def singleFileEvents : List SourceEvent :=
  let first := requestOf singleFile 0 0 3
  let second := requestOf singleFile 1 64 9
  [.asked 3 (some first), .rejected first, .asked 4 none, .rangeChanged, .retried,
    .asked 6 (some first), .accepted, .asked 7 none, .answered first 9, .asked 9 (some second),
    .retried, .accepted]

theorem issues_in_order_handed_back :
    ∃ source, Issued singleFile singleFileEvents source ∧
      IssuesInOrder singleFile singleFileEvents source := by
  have asked := Issued.start.step (.ask rfl : Takes (fresh singleFile) (.asked 3 _) _) rfl
  have refused := asked.step (.reject (requestOf singleFile 0 0 3)) rfl
  have waiting := refused.step (.ask rfl : Takes _ (.asked 4 none) _) rfl
  have changed := waiting.step .rangeChange trivial
  have retried := changed.step .retry trivial
  have again := retried.step (.ask rfl : Takes _ (.asked 6 _) _) rfl
  have taken := again.step .accept rfl
  have full := taken.step (.ask rfl : Takes _ (.asked 7 none) _) rfl
  have answered := full.step (.answer (requestOf singleFile 0 0 3) 9) Nat.zero_lt_one
  have next := answered.step (.ask rfl : Takes _ (.asked 9 _) _) rfl
  have idle := next.step .retry trivial
  have last := idle.step .accept rfl
  exact ⟨_, last, issues_in_order last⟩

end RequestGenerator

end GatedMemory
