import GatedMemory.Proofs.Link
import GatedMemory.Proofs.SecureModule.Actions
import GatedMemory.Traffic.KeyStream

set_option autoImplicit false

namespace GatedMemory

/-- The packet, as if it had been created at tick zero. -/
def Packet.undated (packet : Packet) : Packet :=
  { packet with createdAt := 0 }

/-- Of two packets that differ only in when they were created, one tells the other. -/
theorem Packet.eq_of_undated {packet other : Packet} (same : packet.undated = other.undated) :
    other = { packet with createdAt := other.createdAt } := by
  cases packet
  cases other
  simp only [undated, mk.injEq] at same
  simp only [same]

namespace RequestGenerator

variable {workload : Workload}

/-- The first requests of a workload, undated, and the position in the key stream after them. -/
def stream (workload : Workload) : Nat → Except Fault (List Packet × Nat)
  | 0 => .ok ([], 0)
  | count + 1 => do
    let (requests, position) ← stream workload count
    let (address, position) ← addressOf workload count position
    return (requests ++ [requestOf workload count address 0], position)

theorem stream_succ {count : Nat} {result : List Packet × Nat}
    (drawn : stream workload (count + 1) = .ok result) : ∃ past, stream workload count = .ok past ∧
      ∃ address, addressOf workload count past.2 = .ok (address, result.2) ∧
        result.1 = past.1 ++ [requestOf workload count address 0] := by
  simp only [stream] at drawn
  cases before : stream workload count with
  | error fault =>
    rw [before] at drawn
    cases drawn
  | ok past =>
    simp only [before, ok_bind] at drawn
    cases found : addressOf workload count past.2 with
    | error fault =>
      rw [found] at drawn
      cases drawn
    | ok place =>
      simp only [found, ok_bind] at drawn
      cases drawn
      exact ⟨past, rfl, place.1, found, rfl⟩

/-- The requests are numbered in the order of their creation. -/
theorem stream_ids {count : Nat} {result : List Packet × Nat}
    (drawn : stream workload count = .ok result) : result.1.map Packet.id = List.range count := by
  induction count generalizing result with
  | zero =>
    cases drawn
    rfl
  | succ count ih =>
    obtain ⟨past, before, address, -, requests⟩ := stream_succ drawn
    rw [requests, List.map_append, ih before, List.range_succ, List.map_singleton, requestOf_id]

/-- To draw more requests leaves the first ones as they were. -/
theorem stream_grows {fewer more : Nat} {first all : List Packet × Nat}
    (short : stream workload fewer = .ok first) (long : stream workload more = .ok all)
    (order : fewer ≤ more) : first.1 <+: all.1 := by
  induction order generalizing all with
  | refl =>
    rw [short] at long
    cases long
    exact List.prefix_rfl
  | step _ ih =>
    obtain ⟨past, before, address, -, requests⟩ := stream_succ long
    rw [requests]
    exact (ih before).trans (List.prefix_append _ _)

/-- What two draws have both reached is the same. -/
theorem stream_agree {count more number : Nat} {first second : List Packet × Nat}
    (short : stream workload count = .ok first) (long : stream workload more = .ok second)
    (here : number < first.1.length) (there : number < second.1.length) :
    first.1[number] = second.1[number] := by
  rcases Nat.le_total count more with order | order
  · exact (stream_grows short long order).getElem here
  · exact ((stream_grows long short order).getElem there).symm

/-- The requests that were created between two states, given what was offered. -/
def newRequests (source source' : RequestGenerator) (offered : Option Packet) : List Packet :=
  if source.created < source'.created then offered.toList else []

theorem requestOf_undated (workload : Workload) (number address now : Nat) :
    (requestOf workload number address now).undated = requestOf workload number address 0 := by
  unfold requestOf
  split <;> rfl

/-- Asking for a request keeps to the stream: a held request is offered again without a draw, and a
new one is drawn only if it is offered at once. -/
theorem stream_next {source source' : RequestGenerator} {journal : List Packet} {now : Nat}
    {offered : Option Packet} (same : source.workload = workload)
    (drawn : stream workload source.created = .ok (journal.map Packet.undated, source.position))
    (asked : source.next now = .ok (offered, source')) : source'.workload = workload ∧
      stream workload source'.created = .ok
        ((journal ++ newRequests source source' offered).map Packet.undated, source'.position) := by
  subst same
  have kept : newRequests source source offered = [] := if_neg (Nat.lt_irrefl _)
  unfold next at asked
  by_cases awaits : source.awaitsRetry = true
  · rw [if_pos awaits] at asked
    cases asked
    exact ⟨rfl, by rw [kept, List.append_nil, drawn]⟩
  · rw [if_neg awaits] at asked
    cases holds : source.held with
    | some packet =>
      simp only [holds] at asked
      cases asked
      have again : newRequests source { source with held := none } (some packet) = [] :=
        if_neg (Nat.lt_irrefl _)
      exact ⟨rfl, by rw [again, List.append_nil, drawn]⟩
    | none =>
      simp only [holds] at asked
      by_cases more : source.canCreate = true
      · rw [if_pos more, create] at asked
        cases found : addressOf source.workload source.created source.position with
        | error fault =>
          rw [found] at asked
          cases asked
        | ok place =>
          simp only [found, ok_bind] at asked
          cases asked
          refine ⟨rfl, ?_⟩
          simp only [stream, drawn, ok_bind, found, newRequests, Nat.lt_succ_self, ↓reduceIte,
            Option.toList_some, List.map_append, List.map_singleton, requestOf_undated]
          rfl
      · rw [if_neg more] at asked
        cases asked
        exact ⟨rfl, by rw [kept, List.append_nil, drawn]⟩

end RequestGenerator

/-- Requests that are numbered from zero, and that differ in nothing but when they were created as
far as both lists go. -/
def SameRequests (requests requests' : List Packet) : Prop :=
  ∀ (number : Nat) (packet other : Packet), requests[number]? = some packet →
    requests'[number]? = some other →
    packet.id = number ∧ other = { packet with createdAt := other.createdAt }

/-- A requester with a journal of the requests that it has created, oldest first. -/
structure Journaled (workload : Workload) where
  source : RequestGenerator
  journal : List Packet
  same : source.workload = workload
  /-- The journal is the stream so far, with dates. -/
  drawn : RequestGenerator.stream workload source.created =
    .ok (journal.map Packet.undated, source.position)

namespace Journaled

variable {workload : Workload}

def fresh (workload : Workload) : Journaled workload :=
  { source := .fresh workload, journal := [], same := rfl, drawn := rfl }

/-- Asks for the next request, and enters it into the journal if it was created for this. -/
def next (now : Nat) (journaled : Journaled workload) :
    Except Fault (Option Packet × Journaled workload) :=
  match asked : journaled.source.next now with
  | .error fault => .error fault
  | .ok (offered, source) =>
    let kept := RequestGenerator.stream_next journaled.same journaled.drawn asked
    .ok (offered, {
      source
      journal := journaled.journal ++ journaled.source.newRequests source offered
      same := kept.1
      drawn := kept.2 })

theorem map_next (now : Nat) (journaled : Journaled workload) :
    journaled.source.next now = (journaled.next now).map (Prod.map id source) := by
  unfold next
  split
  case h_1 fault asked => exact asked
  case h_2 offered source asked => exact asked

theorem length_journal (journaled : Journaled workload) :
    journaled.journal.length = journaled.source.created := by
  have numbers := congrArg List.length (RequestGenerator.stream_ids journaled.drawn)
  rwa [List.length_map, List.length_map, List.length_range] at numbers

/-- The journals of one workload agree. -/
theorem journals_agree (first second : Journaled workload) :
    SameRequests first.journal second.journal := by
  intro number packet other here there
  obtain ⟨inFirst, rfl⟩ := List.getElem?_eq_some_iff.1 here
  obtain ⟨inSecond, rfl⟩ := List.getElem?_eq_some_iff.1 there
  have agree := RequestGenerator.stream_agree first.drawn second.drawn
    (by rwa [List.length_map]) (by rwa [List.length_map])
  have numbered := congrArg (fun ids => ids[number]?) (RequestGenerator.stream_ids first.drawn)
  rw [List.getElem_map, List.getElem_map] at agree
  have created : number < first.source.created := by rwa [← length_journal]
  exact ⟨by simpa [inFirst, created, Packet.undated] using numbered, Packet.eq_of_undated agree⟩

end Journaled

instance (workload : Workload) : ResponseSink (Journaled workload) where
  offer packet now journaled :=
    let answer := journaled.source.offer packet now
    (answer.1, { journaled with source := answer.2 })
  requestRetry journaled := { journaled with source := journaled.source.requestRetry }
  rangeChange journaled := { journaled with source := journaled.source.rangeChange }

instance (workload : Workload) : TrafficSource (Journaled workload) where
  next := Journaled.next
  accepted journaled := { journaled with source := journaled.source.accepted }
  rejected packet journaled := { journaled with source := journaled.source.rejected packet }
  isFinished journaled := journaled.source.isFinished
  stats journaled := journaled.source.stats
  oversize? journaled := journaled.source.oversize?

/-- A run with a journal is the run without it. -/
theorem Journaled.requesterMap (workload : Workload) :
    TrafficSource.Map (Journaled.source : Journaled workload → RequestGenerator) where
  offer _ _ _ := rfl
  requestRetry _ := rfl
  next now journaled := journaled.map_next now
  accepted _ := rfl
  rejected _ _ := rfl
  isFinished _ := rfl
  stats _ := rfl
  oversize? _ := rfl

namespace Simulation

variable {κ ε ρ μ : Type} [Intermediary κ ε] [TrafficSource ρ] [ResponseSource μ]

/-- A state that the simulation gets to: after a number of events, or at the end of a run. -/
inductive Reaches (component : κ) (requester : ρ) (memory : μ) (sim : Simulation κ ρ μ ε) : Prop
    where
  | after (count : Nat) (fired : start component requester memory >>= fireMany count = .ok sim)
  | ended (maxTicks : Nat) (outcome : Except RunError RunSummary)
    (ran : start component requester memory >>= run maxTicks = .ok (outcome, sim))

/-- The requests that were created, oldest first, until the simulation got to this state. -/
def Created (component : κ) (workload : Workload) (memory : μ)
    (sim : Simulation κ RequestGenerator μ ε) (requests : List Packet) : Prop :=
  ∃ full : Simulation κ (Journaled workload) μ ε,
    Reaches component (.fresh workload) memory full ∧
    sim = full.map Journaled.source (fun memory => memory) ∧ full.rig.requester.journal = requests

theorem Created.length {component : κ} {workload : Workload} {memory : μ}
    {sim : Simulation κ RequestGenerator μ ε} {requests : List Packet}
    (created : Created component workload memory sim requests) :
    requests.length = sim.rig.requester.created := by
  obtain ⟨full, -, rfl, rfl⟩ := created
  exact full.rig.requester.length_journal

theorem Reaches.exists_created [Parametric κ] {component : κ} {workload : Workload} {memory : μ}
    {sim : Simulation κ RequestGenerator μ ε}
    (reaches : Reaches component (.fresh workload) memory sim) :
    ∃ requests, Created component workload memory sim requests := by
  have left := Journaled.requesterMap workload
  have right : ResponseSource.Map fun memory : μ => memory := .refl
  cases reaches with
  | after count fired =>
    change start component (Journaled.fresh workload).source memory >>= fireMany count = _ at fired
    rw [fireMany_start_map left right] at fired
    obtain ⟨full, reached, same⟩ := Yields.of_map fired
    exact ⟨_, full, .after count reached, same.symm, rfl⟩
  | ended maxTicks outcome ran =>
    change start component (Journaled.fresh workload).source memory >>= run maxTicks = _ at ran
    rw [run_start_map left right] at ran
    obtain ⟨⟨ended, full⟩, reached, same⟩ := Yields.of_map ran
    exact ⟨_, full, .ended maxTicks ended reached, (Prod.mk.inj same).2.symm, rfl⟩

/-- Any two runs of a workload create the same requests as far as both get, each at its own time:
between them and memory may be any two components, and memory may differ too. -/
theorem requests_agree {κ' ε' μ' : Type} [Intermediary κ' ε'] [ResponseSource μ'] [Parametric κ]
    [Parametric κ'] (workload : Workload) (component : κ) (component' : κ') (memory : μ)
    (memory' : μ') {sim : Simulation κ RequestGenerator μ ε}
    {sim' : Simulation κ' RequestGenerator μ' ε'}
    (reaches : Reaches component (.fresh workload) memory sim)
    (reaches' : Reaches component' (.fresh workload) memory' sim') :
    ∃ requests requests', Created component workload memory sim requests ∧
      Created component' workload memory' sim' requests' ∧
      requests.length = sim.rig.requester.created ∧
      requests'.length = sim'.rig.requester.created ∧
      SameRequests requests requests' := by
  obtain ⟨requests, created⟩ := reaches.exists_created
  obtain ⟨requests', created'⟩ := reaches'.exists_created
  refine ⟨requests, requests', created, created', created.length, created'.length, ?_⟩
  obtain ⟨full, -, -, rfl⟩ := created
  obtain ⟨full', -, -, rfl⟩ := created'
  exact full.rig.requester.journals_agree full'.rig.requester

/-- Lines drawn at random, three requests ahead of the responses. -/
def randomLines : Workload :=
  { numRequests := 20, pattern := .random (KeyStream.stream 42), maxOutstanding := 3 }

/-- The link has taken both requests. The module, which has room for one, has turned the second down
twice. -/
theorem requests_agree_random_lines :
    ∃ (sim : Simulation FixedLatencyLink RequestGenerator MemoryModel LinkEvent)
      (sim' : Simulation SecureModule RequestGenerator MemoryModel SecureEvent)
      (requests requests' : List Packet),
      sim.rig.requester.stats.rejected = 0 ∧ sim'.rig.requester.stats.rejected = 2 ∧
      Created (.fresh { clockPeriod := 2 }) randomLines (.idle { accessLatency := 4 }) sim
        requests ∧
      Created (.fresh { requestCapacity := 1, clockPeriod := 3 }) randomLines
        (.idle { accessLatency := 4, maxOutstanding := 1 }) sim' requests' ∧
      requests.length = 2 ∧ requests'.length = 2 ∧ SameRequests requests requests' := by
  let link := FixedLatencyLink.fresh { clockPeriod := 2 }
  let module := SecureModule.fresh { requestCapacity := 1, clockPeriod := 3 }
  let memory := MemoryModel.idle { accessLatency := 4 }
  let memory' := MemoryModel.idle { accessLatency := 4, maxOutstanding := 1 }
  let source := RequestGenerator.fresh randomLines
  have linked : (start link source memory >>= fireMany 2).map (fun sim =>
      (sim.rig.requester.created, sim.rig.requester.stats.rejected)) = .ok (2, 0) := by
    decide +kernel
  have guarded : (start module source memory' >>= fireMany 5).map (fun sim =>
      (sim.rig.requester.created, sim.rig.requester.stats.rejected)) = .ok (2, 2) := by
    decide +kernel
  obtain ⟨sim, fired, counts⟩ := Yields.of_map linked
  obtain ⟨sim', fired', counts'⟩ := Yields.of_map guarded
  obtain ⟨requests, requests', created, created', length, length', same⟩ :=
    requests_agree randomLines link module memory memory' (.after 2 fired) (.after 5 fired')
  exact ⟨sim, sim', requests, requests', (Prod.mk.inj counts).2, (Prod.mk.inj counts').2, created,
    created', length.trans (Prod.mk.inj counts).1, length'.trans (Prod.mk.inj counts').1, same⟩

end Simulation

end GatedMemory
