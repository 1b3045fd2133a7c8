import GatedMemory.Intermediary.Link
import GatedMemory.Intermediary.PassThrough
import GatedMemory.Intermediary.SecureModule
import GatedMemory.Proofs.Recorded
import GatedMemory.Proofs.Run

/-!
Components treat their peers as black boxes: a map between peers that takes part in every exchange
commutes with every operation of a component, and so with whole simulations. In particular a run
between recorded peers is the run between the peers themselves, with the records added.
-/

set_option autoImplicit false

namespace GatedMemory

variable {κ ε ρ ρ' μ μ' α β γ : Type}

def Rig.map (f : ρ → ρ') (g : μ → μ') (rig : Rig κ ρ μ α) : Rig κ ρ' μ' α :=
  { component := rig.component, requester := f rig.requester, memory := g rig.memory
    events := rig.events }

/-- A component that knows its peers only through the exchanges with them. -/
class Parametric (κ : Type) {ε : outParam Type} [Intermediary κ ε] : Prop where
  start : ∀ {ρ ρ' μ μ' α : Type} [Embed ε α] (f : ρ → ρ') (g : μ → μ') (rig : Rig κ ρ μ α),
    Intermediary.start (rig.map f g) = (Intermediary.start rig).map (Rig.map f g)
  windDown : ∀ {ρ ρ' μ μ' α : Type} (f : ρ → ρ') (g : μ → μ') (rig : Rig κ ρ μ α),
    Intermediary.windDown (rig.map f g) = (Intermediary.windDown rig).map f g
  handle : ∀ {ρ ρ' μ μ' α : Type} [ResponseSink ρ] [ResponseSink ρ'] [RequestSink μ]
    [RequestSink μ'] [Embed ε α] {f : ρ → ρ'} {g : μ → μ'}, ResponseSink.Map f →
    RequestSink.Map g → ∀ (event : ε) (rig : Rig κ ρ μ α),
    Intermediary.handle event (rig.map f g) =
      (Intermediary.handle event rig).map (Prod.map id (Rig.map f g))
  request : ∀ {ρ ρ' μ μ' α : Type} [RequestSink μ] [RequestSink μ'] [Embed ε α] (f : ρ → ρ')
    {g : μ → μ'}, RequestSink.Map g → ∀ (packet : Packet) (rig : Rig κ ρ μ α),
    Intermediary.request packet (rig.map f g) =
      (Intermediary.request packet rig).map (Prod.map id (Rig.map f g))
  response : ∀ {ρ ρ' μ μ' α : Type} [ResponseSink ρ] [ResponseSink ρ'] [Embed ε α]
    {f : ρ → ρ'} (g : μ → μ'), ResponseSink.Map f → ∀ (packet : Packet) (rig : Rig κ ρ μ α),
    Intermediary.response packet (rig.map f g) =
      (Intermediary.response packet rig).map (Prod.map id (Rig.map f g))
  requestRetry : ∀ {ρ ρ' μ μ' α : Type} [ResponseSink ρ] [ResponseSink ρ'] [RequestSink μ]
    [RequestSink μ'] {f : ρ → ρ'} {g : μ → μ'}, ResponseSink.Map f → RequestSink.Map g →
    ∀ rig : Rig κ ρ μ α,
    Intermediary.requestRetry (rig.map f g) = (Intermediary.requestRetry rig).map f g

section Gate

variable [ResponseSink ρ] [ResponseSink ρ'] [RequestSink μ] [RequestSink μ'] {f : ρ → ρ'}
  {g : μ → μ'}

theorem Gate.sendRequest_map (map : RequestSink.Map g) (gate : Gate) (memory : μ) (now : Nat) :
    gate.sendRequest (g memory) now =
      Prod.map id (Prod.map id g) (gate.sendRequest memory now) := by
  unfold sendRequest
  split
  · rfl
  · split
    · rfl
    · unfold BoundedFifo.offerHead
      cases gate.requests.items with
      | nil => rfl
      | cons request rest =>
        simp only [map.offer]
        rcases RequestSink.offer request.packet now memory with ⟨_ | _, _⟩ <;> rfl

theorem Gate.sendResponse_map (map : ResponseSink.Map f) (gate : Gate) (requester : ρ)
    (now : Nat) : gate.sendResponse (f requester) now =
      Prod.map id (Prod.map id f) (gate.sendResponse requester now) := by
  unfold sendResponse
  split
  · rfl
  · unfold BoundedFifo.offerHead
    cases gate.responses.items with
    | nil => rfl
    | cons packet rest =>
      simp only [map.offer]
      rcases ResponseSink.offer packet now requester with ⟨_ | _, _⟩ <;> rfl

end Gate

namespace SecureModule

/-- The driver's occurrence at an edge is no longer pending. -/
def edgeFired (rig : Rig SecureModule ρ μ α) : Rig SecureModule ρ μ α :=
  { rig with component := { rig.component with driver := rig.component.driver.occurred } }

/-- The driver's work at an edge, apart from scheduling the next one. -/
def edgeWork [ResponseSink ρ] [RequestSink μ] (rig : Rig SecureModule ρ μ α) :
    Rig SecureModule ρ μ α :=
  settleResponseRetry (settleRequestRetry (drainResponse (drainRequest (edgeFired rig))))

theorem onEdge_eq [ResponseSink ρ] [RequestSink μ] [Embed SecureEvent α]
    (rig : Rig SecureModule ρ μ α) : onEdge rig = scheduleEdge (edgeWork rig) := rfl

variable {f : ρ → ρ'} {g : μ → μ'} (rig : Rig SecureModule ρ μ α)

theorem scheduleEdge_map [Embed SecureEvent α] (f : ρ → ρ') (g : μ → μ') :
    scheduleEdge (rig.map f g) = (scheduleEdge rig).map (Rig.map f g) := by
  simp only [scheduleEdge, map_bind]
  rfl

theorem drainRequest_map [RequestSink μ] [RequestSink μ'] (f : ρ → ρ')
    (map : RequestSink.Map g) : drainRequest (rig.map f g) = (drainRequest rig).map f g := by
  simp only [drainRequest, Rig.map, Rig.now, Gate.sendRequest_map map]
  rfl

theorem drainResponse_map [ResponseSink ρ] [ResponseSink ρ'] (g : μ → μ')
    (map : ResponseSink.Map f) : drainResponse (rig.map f g) = (drainResponse rig).map f g := by
  simp only [drainResponse, Rig.map, Rig.now, Gate.sendResponse_map map]
  rfl

theorem settleRequestRetry_map [ResponseSink ρ] [ResponseSink ρ'] (g : μ → μ')
    (map : ResponseSink.Map f) :
    settleRequestRetry (rig.map f g) = (settleRequestRetry rig).map f g := by
  simp only [settleRequestRetry, Rig.map, map.requestRetry]
  split <;> rfl

theorem settleResponseRetry_map [RequestSink μ] [RequestSink μ'] (f : ρ → ρ')
    (map : RequestSink.Map g) :
    settleResponseRetry (rig.map f g) = (settleResponseRetry rig).map f g := by
  simp only [settleResponseRetry, Rig.map, map.responseRetry]
  split <;> rfl

theorem edgeWork_map [ResponseSink ρ] [ResponseSink ρ'] [RequestSink μ] [RequestSink μ']
    (left : ResponseSink.Map f) (right : RequestSink.Map g) :
    edgeWork (rig.map f g) = (edgeWork rig).map f g := by
  have fired : edgeFired (rig.map f g) = (edgeFired rig).map f g := rfl
  simp only [edgeWork, fired, drainRequest_map _ _ right, drainResponse_map _ _ left,
    settleRequestRetry_map _ _ left, settleResponseRetry_map _ _ right]

end SecureModule

instance : Parametric SecureModule where
  start f g rig := SecureModule.scheduleEdge_map rig f g
  windDown _ _ _ := rfl
  handle left right event rig := by
    cases event with
    | edge =>
      simp only [Intermediary.handle, SecureModule.handle, SecureModule.onEdge_eq,
        SecureModule.edgeWork_map rig left right, SecureModule.scheduleEdge_map, bind_map, map_bind]
      rfl
    | checkOver slot => rfl
  request f g right packet rig := by
    simp only [Intermediary.request, SecureModule.request, Rig.map, map_bind]
    congr 1
    funext cycles
    cases cycles with
    | none => rfl
    | some cycles =>
      simp only [map_bind]
      rfl
  response _ _ _ _ := rfl
  requestRetry left right rig := by
    simp only [Intermediary.requestRetry, SecureModule.requestRetry, Rig.map, Rig.now,
      Gate.unblockMemory, Gate.sendRequest_map right]
    rfl

instance : Parametric PassThrough where
  start _ _ _ := rfl
  windDown _ _ _ := rfl
  handle _ _ event _ := nomatch event
  request f g right packet rig := by
    simp only [Intermediary.request, Rig.map, right.offer]
    rfl
  response g left packet rig := by
    simp only [Intermediary.response, Rig.map, left.offer]
    rfl
  requestRetry left right rig := by
    simp only [Intermediary.requestRetry, Rig.map, left.requestRetry]

theorem FixedLatencyLink.send_map [Embed LinkEvent α] (f : ρ → ρ') (g : μ → μ')
    (event : LinkEvent) (rig : Rig FixedLatencyLink ρ μ α) :
    send event (rig.map f g) = (send event rig).map (Rig.map f g) := by
  simp only [send, map_bind]
  rfl

instance : Parametric FixedLatencyLink where
  start _ _ _ := rfl
  windDown _ _ _ := rfl
  handle left right event rig := by
    cases event with
    | requestArrives packet =>
      simp only [Intermediary.handle, FixedLatencyLink.handle, Rig.map, Rig.now, right.offer]
      rcases RequestSink.offer packet rig.events.now rig.memory with ⟨_ | _, _⟩ <;> rfl
    | responseArrives packet =>
      simp only [Intermediary.handle, FixedLatencyLink.handle, FixedLatencyLink.receiveResponse,
        Rig.map, Rig.now, left.offer]
      split
      · rfl
      · rcases ResponseSink.offer packet rig.events.now rig.requester with ⟨_ | _, _⟩ <;> rfl
  request f g right packet rig := by
    simp only [Intermediary.request, FixedLatencyLink.send_map, bind_map, map_bind]
    rfl
  response g left packet rig := by
    simp only [Intermediary.response, FixedLatencyLink.send_map, bind_map, map_bind]
    rfl
  requestRetry _ _ _ := rfl

/-- No exchange takes the property from a requester. -/
structure ResponseSink.Closed [ResponseSink ρ] (holds : ρ → Prop) : Prop where
  offer : ∀ packet now requester, holds requester →
    holds (ResponseSink.offer packet now requester).2
  requestRetry : ∀ requester, holds requester → holds (ResponseSink.requestRetry requester)

namespace ResponseSink.Closed

variable {holds : ρ → Prop}

/-- The same rig, seen between requesters that all have the property. -/
def within {rig : Rig κ ρ μ α} (has : holds rig.requester) :
    Rig κ { requester : ρ // holds requester } μ α :=
  { component := rig.component, requester := ⟨rig.requester, has⟩, memory := rig.memory
    events := rig.events }

/-- What comes of a rig between such requesters is between such requesters. -/
theorem of_map {result : β × Rig κ ρ μ α}
    {outcome : Except Fault (β × Rig κ { requester : ρ // holds requester } μ α)}
    (given : outcome.map (Prod.map id (Rig.map Subtype.val id)) = .ok result) :
    holds result.2.requester := by
  cases outcome with
  | error => cases given
  | ok result' =>
    cases given
    exact result'.2.requester.property

variable [Intermediary κ ε] [Parametric κ] [Embed ε α] (rig : Rig κ ρ μ α) {next : Rig κ ρ μ α}
  (has : holds rig.requester)
include has

theorem start_keeps (started : Intermediary.start rig = .ok next) : holds next.requester := by
  have mapped := Parametric.start Subtype.val id (within has)
  change Intermediary.start rig = _ at mapped
  rw [started] at mapped
  obtain ⟨next', -, rfl⟩ := Yields.of_map mapped.symm
  exact next'.requester.property

omit [Embed ε α] in
theorem windDown_keeps : holds (Intermediary.windDown rig).requester := by
  have mapped := Parametric.windDown Subtype.val id (within has)
  change Intermediary.windDown rig = _ at mapped
  rw [mapped]
  exact (Intermediary.windDown (within has)).requester.property

theorem request_keeps [RequestSink μ] {packet : Packet}
    {result : Except RunError Delivery × Rig κ ρ μ α}
    (given : Intermediary.request packet rig = .ok result) : holds result.2.requester := by
  have mapped := Parametric.request Subtype.val (g := id) ⟨fun _ _ _ => rfl, fun _ => rfl⟩ packet
    (within has)
  exact of_map (mapped.symm.trans given)

variable [ResponseSink ρ] (closed : ResponseSink.Closed holds)
include closed

/-- Requesters with the property take part in every exchange. -/
abbrev sink : ResponseSink { requester : ρ // holds requester } where
  offer packet now requester :=
    ((ResponseSink.offer packet now requester.1).1,
      ⟨(ResponseSink.offer packet now requester.1).2, closed.offer _ _ _ requester.2⟩)
  requestRetry requester :=
    ⟨ResponseSink.requestRetry requester.1, closed.requestRetry _ requester.2⟩
  rangeChange requester := requester

omit [Intermediary κ ε] [Parametric κ] [Embed ε α] has in
theorem val_map : @ResponseSink.Map _ _ closed.sink _ (Subtype.val : { r : ρ // holds r } → ρ) :=
  @ResponseSink.Map.mk _ _ closed.sink _ _ (fun _ _ _ => rfl) fun _ => rfl

theorem response_keeps {packet : Packet} {result : Delivery × Rig κ ρ μ α}
    (given : Intermediary.response packet rig = .ok result) : holds result.2.requester := by
  let _ := closed.sink
  have mapped := Parametric.response (id : μ → μ) closed.val_map packet (within has)
  exact of_map (mapped.symm.trans given)

variable [RequestSink μ]

theorem handle_keeps {event : ε} {result : Option RunError × Rig κ ρ μ α}
    (given : Intermediary.handle event rig = .ok result) : holds result.2.requester := by
  let _ := closed.sink
  have mapped := Parametric.handle closed.val_map (g := (id : μ → μ))
    ⟨fun _ _ _ => rfl, fun _ => rfl⟩ event (within has)
  exact of_map (mapped.symm.trans given)

omit [Embed ε α] in
theorem requestRetry_keeps : holds (Intermediary.requestRetry rig).requester := by
  let _ := closed.sink
  have mapped := Parametric.requestRetry closed.val_map (g := (id : μ → μ))
    ⟨fun _ _ _ => rfl, fun _ => rfl⟩ (within has)
  change Intermediary.requestRetry rig = _ at mapped
  rw [mapped]
  exact (Intermediary.requestRetry (within has)).requester.property

end ResponseSink.Closed

namespace Simulation

variable [Intermediary κ ε]

def map (f : ρ → ρ') (g : μ → μ') (sim : Simulation κ ρ μ ε) : Simulation κ ρ' μ' ε :=
  { rig := sim.rig.map f g, clock := sim.clock, finishedAt := sim.finishedAt }

theorem finishOrContinue_map [Parametric κ] [TrafficSource ρ] [TrafficSource ρ'] {f : ρ → ρ'}
    (g : μ → μ') (left : TrafficSource.Map f) (sim : Simulation κ ρ μ ε) :
    (sim.map f g).finishOrContinue = sim.finishOrContinue.map (map f g) := by
  unfold finishOrContinue
  have finished : TrafficSource.isFinished (sim.map f g).rig.requester =
      TrafficSource.isFinished sim.rig.requester := left.isFinished _
  simp only [finished]
  split
  · have stopped : Intermediary.windDown (sim.map f g).rig =
        (Intermediary.windDown sim.rig).map f g := Parametric.windDown f g sim.rig
    rw [stopped]
    rfl
  · simp only [map_bind]
    rfl

section

variable [Parametric κ] [TrafficSource ρ] [TrafficSource ρ'] [ResponseSource μ]
  [ResponseSource μ'] {f : ρ → ρ'} {g : μ → μ'} (left : TrafficSource.Map f)
  (right : ResponseSource.Map g)
include left right

theorem serveResponse_map (rig : Rig κ ρ μ (SimulationEvent ε)) :
    serveResponse (rig.map f g) = (serveResponse rig).map (Rig.map f g) := by
  unfold serveResponse
  have taken : ResponseSource.takeReady (rig.map f g).now (rig.map f g).memory =
      Prod.map id g (ResponseSource.takeReady rig.now rig.memory) := right.takeReady _ _
  rw [taken]
  rcases ResponseSource.takeReady rig.now rig.memory with ⟨_ | packet, memory⟩
  · rfl
  · have answer := Parametric.response g left.toMap packet { rig with memory }
    change (Intermediary.response packet (Rig.map f g { rig with memory }) >>= _) = _
    rw [answer, bind_map, map_bind]
    congr 1
    funext result
    rcases result with ⟨_ | back, rig⟩
    · rfl
    · simp only [Prod.map, id_eq, Rig.map, right.putBack]
      rfl

theorem passRetry_map (rig : Rig κ ρ μ (SimulationEvent ε)) :
    passRetry (rig.map f g) = (passRetry rig).map f g := by
  unfold passRetry
  have settled : ResponseSource.settleRetry (rig.map f g).memory =
      Prod.map id g (ResponseSource.settleRetry rig.memory) := right.settleRetry _
  rw [settled]
  rcases ResponseSource.settleRetry rig.memory with ⟨owed, memory⟩
  cases owed with
  | false => rfl
  | true => exact Parametric.requestRetry left.toMap right.toMap { rig with memory }

theorem issueRequest_map (rig : Rig κ ρ μ (SimulationEvent ε)) :
    issueRequest (rig.map f g) = (issueRequest rig).map (Prod.map id (Rig.map f g)) := by
  unfold issueRequest
  have next : TrafficSource.next (rig.map f g).now (rig.map f g).requester =
      (TrafficSource.next rig.now rig.requester).map (Prod.map id f) := left.next _ _
  rw [next, bind_map, map_bind]
  congr 1
  funext result
  rcases result with ⟨_ | packet, requester⟩
  · rfl
  · have answer := Parametric.request f right.toMap packet { rig with requester }
    change (Intermediary.request packet (Rig.map f g { rig with requester }) >>= _) = _
    rw [answer, bind_map, map_bind]
    congr 1
    funext result
    rcases result with ⟨_ | _ | back, rig⟩
    · rfl
    · simp only [Prod.map, id_eq, Rig.map, left.accepted]
      rfl
    · simp only [Prod.map, id_eq, Rig.map, left.rejected]
      rfl

theorem tick_map (sim : Simulation κ ρ μ ε) :
    (sim.map f g).tick = sim.tick.map (Prod.map id (map f g)) := by
  unfold tick
  have served : serveResponse (sim.map f g).rig = (serveResponse sim.rig).map (Rig.map f g) :=
    serveResponse_map left right sim.rig
  simp only [served, bind_map, map_bind, passRetry_map left right, issueRequest_map left right]
  congr 1
  funext rig
  congr 1
  funext result
  rcases result with ⟨_ | error, rig⟩
  · have done := finishOrContinue_map g left
      ({ rig, clock := sim.clock.occurred, finishedAt := sim.finishedAt } : Simulation κ ρ μ ε)
    simp only [map] at done
    simp only [Prod.map, id_eq, map, done, bind_map, map_bind]
    rfl
  · rfl

theorem react_map (event : SimulationEvent ε) (sim : Simulation κ ρ μ ε) :
    react event (sim.map f g) = (react event sim).map (Prod.map id (map f g)) := by
  cases event with
  | component event =>
    have handled : Intermediary.handle event (sim.map f g).rig =
        (Intermediary.handle event sim.rig).map (Prod.map id (Rig.map f g)) :=
      Parametric.handle left.toMap right.toMap event sim.rig
    simp only [react, handled, bind_map, map_bind]
    rfl
  | clock => exact tick_map left right sim

omit [Intermediary κ ε] [Parametric κ] in
theorem oversize?_map (sim : Simulation κ ρ μ ε) : (sim.map f g).oversize? = sim.oversize? := by
  simp only [oversize?, map, Rig.map, left.oversize?, right.oversize?]

theorem handle_map (event : SimulationEvent ε) (sim : Simulation κ ρ μ ε) :
    handle event (sim.map f g) = (handle event sim).map (Prod.map id (map f g)) := by
  simp only [handle, react_map left right, bind_map, map_bind]
  congr 1
  funext result
  simp only [Prod.map, oversize?_map left right]
  cases result.2.oversize? <;> rfl

theorem advanceWithin_map (limit fuel : Nat) (sim : Simulation κ ρ μ ε) :
    advanceWithin limit fuel (sim.map f g) =
      (advanceWithin limit fuel sim).map (Prod.map id (map f g)) := by
  induction fuel generalizing sim with
  | zero => rfl
  | succ fuel ih =>
    simp only [advanceWithin]
    have due : (sim.map f g).rig.events.takeDue limit = sim.rig.events.takeDue limit := rfl
    rw [due]
    cases sim.rig.events.takeDue limit with
    | none => rfl
    | some fired =>
      obtain ⟨tick, event, events⟩ := fired
      have handled := handle_map left right event { sim with rig := { sim.rig with events } }
      simp only [map, Rig.map] at handled ih
      simp only [map, Rig.map, handled, bind_map, map_bind]
      congr 1
      funext result
      rcases result with ⟨_ | error, sim⟩
      · exact ih sim
      · rfl

theorem fireNext_map (sim : Simulation κ ρ μ ε) :
    (sim.map f g).fireNext = sim.fireNext.map (map f g) := by
  unfold fireNext
  have next : (sim.map f g).rig.events.takeNext = sim.rig.events.takeNext := rfl
  rw [next]
  cases sim.rig.events.takeNext with
  | none => rfl
  | some fired =>
    obtain ⟨tick, event, events⟩ := fired
    have handled := handle_map left right event { sim with rig := { sim.rig with events } }
    simp only [map, Rig.map] at handled
    simp only [map, Rig.map, handled, bind_map, map_bind]
    rfl

theorem fireMany_map (count : Nat) (sim : Simulation κ ρ μ ε) :
    (sim.map f g).fireMany count = (sim.fireMany count).map (map f g) := by
  induction count generalizing sim with
  | zero => rfl
  | succ count ih =>
    simp only [fireMany, fireNext_map left right, bind_map, map_bind, ih]

omit [Parametric κ] in
theorem summary_map (sim : Simulation κ ρ μ ε) : (sim.map f g).summary = sim.summary := by
  simp only [summary, map, Rig.map, left.stats, right.rejections]
  rfl

theorem run_map (maxTicks : Nat) (sim : Simulation κ ρ μ ε) :
    (sim.map f g).run maxTicks = (sim.run maxTicks).map (Prod.map id (map f g)) := by
  have advanced := advanceWithin_map left right maxTicks (sim.rig.events.horizon maxTicks) sim
  simp only [run, advance, map_bind]
  change (advanceWithin maxTicks (sim.rig.events.horizon maxTicks) (sim.map f g) >>= _) = _
  rw [advanced, bind_map]
  congr 1
  funext result
  rcases result with ⟨_ | error, sim⟩
  · simp only [Prod.map, id_eq, summary_map left right]
    rfl
  · rfl

end

theorem start_map [Parametric κ] (component : κ) (f : ρ → ρ') (g : μ → μ') (requester : ρ)
    (memory : μ) :
    (start component (f requester) (g memory) : Except Fault (Simulation κ ρ' μ' ε)) =
      (start component requester memory).map (map f g) := by
  have started := Parametric.start f g
    (.assemble component requester memory : Rig κ ρ μ (SimulationEvent ε))
  simp only [start, map_bind]
  change (Intermediary.start (Rig.map f g (.assemble component requester memory)) >>= _) = _
  rw [started, bind_map]
  rfl

section

variable [Parametric κ] [TrafficSource ρ] [TrafficSource ρ'] [ResponseSource μ]
  [ResponseSource μ'] {f : ρ → ρ'} {g : μ → μ'} (left : TrafficSource.Map f)
  (right : ResponseSource.Map g) (component : κ) (requester : ρ) (memory : μ)
include left right

theorem fireMany_start_map (count : Nat) :
    start component (f requester) (g memory) >>= fireMany count =
      (start component requester memory >>= fireMany count).map (map f g) := by
  rw [start_map, bind_map, map_bind]
  simp only [fireMany_map left right]

theorem run_start_map (maxTicks : Nat) :
    start component (f requester) (g memory) >>= run maxTicks =
      (start component requester memory >>= run maxTicks).map (Prod.map id (map f g)) := by
  rw [start_map, bind_map, map_bind]
  simp only [run_map left right]

end

/-- The property holds after any number of events and at the end of every run, and the run is what
it is between the peers that the maps lead to. -/
structure Always [TrafficSource ρ] [TrafficSource ρ'] [ResponseSource μ] [ResponseSource μ']
    (component : κ) (requester : ρ) (memory : μ) (f : ρ → ρ') (g : μ → μ')
    (holds : Simulation κ ρ μ ε → Prop) : Prop where
  after : ∀ count, Gives Overflow (start component requester memory >>= fireMany count) fun sim =>
    start component (f requester) (g memory) >>= fireMany count = .ok (sim.map f g) ∧ holds sim
  ended : ∀ maxTicks,
    Gives Overflow (start component requester memory >>= run maxTicks) fun result =>
      start component (f requester) (g memory) >>= run maxTicks =
        .ok (result.1, result.2.map f g) ∧ result.1 = result.2.summary ∧ holds result.2

/-- What every event keeps holds throughout. -/
theorem Preserves.always [Parametric κ] [TrafficSource ρ] [TrafficSource ρ'] [ResponseSource μ]
    [ResponseSource μ'] {f : ρ → ρ'} {g : μ → μ'} (left : TrafficSource.Map f)
    (right : ResponseSource.Map g) {component : κ} {requester : ρ} {memory : μ}
    {keeps holds : Simulation κ ρ μ ε → Prop} (preserves : Preserves Overflow keeps)
    (implies : ∀ sim, keeps sim → holds sim)
    (opens : Gives Overflow (start component requester memory) keeps) :
    Always component requester memory f g holds where
  after count := by
    have plain := fireMany_start_map left right component requester memory count
    apply (opens.bind fun _ now => preserves.fireMany count now).and_eq.mono
    rintro final ⟨fired, kept⟩
    rw [fired] at plain
    exact ⟨plain, implies final kept⟩
  ended maxTicks := by
    have plain := run_start_map left right component requester memory maxTicks
    apply (opens.bind fun _ now => preserves.run maxTicks now).and_eq.mono
    rintro ⟨outcome, final⟩ ⟨ran, told, kept⟩
    rw [ran] at plain
    exact ⟨plain, told, implies final kept⟩

end Simulation

end GatedMemory
