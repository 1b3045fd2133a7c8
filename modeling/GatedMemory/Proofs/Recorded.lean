import GatedMemory.Simulation

set_option autoImplicit false

namespace GatedMemory

/-- The ways to split a history that goes one step further. -/
theorem concat_eq_append_cons {β : Type} {past before after : List β} {last present : β}
    (split : past ++ [last] = before ++ present :: after) :
    (after = [] ∧ present = last ∧ before = past) ∨
      ∃ later, after = later ++ [last] ∧ past = before ++ present :: later := by
  rcases List.eq_nil_or_concat after with rfl | ⟨later, final, rfl⟩
  · obtain ⟨rfl, same⟩ := List.append_inj' split rfl
    exact .inl ⟨rfl, (List.singleton_inj.1 same).symm, rfl⟩
  · rw [List.concat_eq_append, ← List.cons_append, ← List.append_assoc] at split
    obtain ⟨rfl, same⟩ := List.append_inj' split rfl
    obtain rfl := List.singleton_inj.1 same
    exact .inr ⟨later, List.concat_eq_append, rfl⟩

/-- What a component can do to a peer. -/
inductive Exchange where
  /-- A packet was offered at a tick, with this outcome. -/
  | offered (tick : Nat) (packet : Packet) (delivery : Delivery)
  /-- The peer was told that it can send again. -/
  | retried
deriving DecidableEq

def Exchange.taken? : Exchange → Option Packet
  | offered _ packet .accepted => some packet
  | _ => none

def Exchange.receipt? : Exchange → Option (Nat × Packet)
  | offered tick packet .accepted => some (tick, packet)
  | _ => none

/-- A peer, and what was done to it, oldest first. -/
structure Recorded (σ : Type) where
  peer : σ
  log : List Exchange

namespace Recorded

variable {σ : Type}

def blank (peer : σ) : Recorded σ :=
  { peer, log := [] }

def taken (recorded : Recorded σ) : List Packet :=
  recorded.log.filterMap Exchange.taken?

def note (recorded : Recorded σ) (peer : σ) (exchange : Exchange) : Recorded σ :=
  { peer, log := recorded.log ++ [exchange] }

/-- The packets that the peer has taken, and when it took each, oldest first. -/
def receipts (recorded : Recorded σ) : List (Nat × Packet) :=
  recorded.log.filterMap Exchange.receipt?

theorem taken_note (recorded : Recorded σ) (peer : σ) (exchange : Exchange) :
    (recorded.note peer exchange).taken = recorded.taken ++ exchange.taken?.toList := by
  simp only [taken, note, List.filterMap_append]
  cases taken : exchange.taken? <;> simp [taken]

theorem receipts_note (recorded : Recorded σ) (peer : σ) (exchange : Exchange) :
    (recorded.note peer exchange).receipts =
      recorded.receipts ++ exchange.receipt?.toList := by
  simp only [receipts, note, List.filterMap_append]
  cases receipt : exchange.receipt? <;> simp [receipt]

theorem map_receipts (recorded : Recorded σ) :
    recorded.receipts.map Prod.snd = recorded.taken := by
  rw [receipts, taken, List.map_filterMap]
  congr 1
  funext exchange
  rcases exchange with ⟨_, _, _ | _⟩ | _ <;> rfl

theorem length_taken (recorded : Recorded σ) :
    recorded.taken.length = recorded.receipts.length := by
  rw [← map_receipts, List.length_map]

end Recorded

variable {ρ ρ' μ μ' : Type}

instance [ResponseSink ρ] : ResponseSink (Recorded ρ) where
  offer packet now recorded :=
    let (delivery, peer) := ResponseSink.offer packet now recorded.peer
    (delivery, recorded.note peer (.offered now packet delivery))
  requestRetry recorded := recorded.note (ResponseSink.requestRetry recorded.peer) .retried
  rangeChange recorded := { recorded with peer := ResponseSink.rangeChange recorded.peer }

instance [RequestSink μ] : RequestSink (Recorded μ) where
  offer packet now recorded :=
    let (delivery, peer) := RequestSink.offer packet now recorded.peer
    (delivery, recorded.note peer (.offered now packet delivery))
  responseRetry recorded := recorded.note (RequestSink.responseRetry recorded.peer) .retried
  ranges recorded := RequestSink.ranges recorded.peer
  functional packet recorded :=
    let (answer, peer) := RequestSink.functional packet recorded.peer
    (answer, { recorded with peer })
  atomic packet recorded :=
    let (answer, peer) := RequestSink.atomic packet recorded.peer
    (answer, { recorded with peer })

instance [TrafficSource ρ] : TrafficSource (Recorded ρ) where
  next now recorded := do
    let (packet, peer) ← TrafficSource.next now recorded.peer
    return (packet, { recorded with peer })
  accepted recorded := { recorded with peer := TrafficSource.accepted recorded.peer }
  rejected packet recorded := { recorded with peer := TrafficSource.rejected packet recorded.peer }
  isFinished recorded := TrafficSource.isFinished recorded.peer
  stats recorded := TrafficSource.stats recorded.peer
  oversize? recorded := TrafficSource.oversize? recorded.peer

instance [ResponseSource μ] : ResponseSource (Recorded μ) where
  takeReady now recorded :=
    let (packet, peer) := ResponseSource.takeReady now recorded.peer
    (packet, { recorded with peer })
  putBack packet now recorded :=
    { recorded with peer := ResponseSource.putBack packet now recorded.peer }
  settleRetry recorded :=
    let (owed, peer) := ResponseSource.settleRetry recorded.peer
    (owed, { recorded with peer })
  rejections recorded := ResponseSource.rejections recorded.peer
  oversize? recorded := ResponseSource.oversize? recorded.peer

/-- A map between requesters that takes part in every exchange. -/
structure ResponseSink.Map [ResponseSink ρ] [ResponseSink ρ'] (f : ρ → ρ') : Prop where
  offer : ∀ packet now requester, ResponseSink.offer packet now (f requester) =
    Prod.map id f (ResponseSink.offer packet now requester)
  requestRetry : ∀ requester,
    ResponseSink.requestRetry (f requester) = f (ResponseSink.requestRetry requester)

/-- A map between memories that takes part in every exchange. -/
structure RequestSink.Map [RequestSink μ] [RequestSink μ'] (g : μ → μ') : Prop where
  offer : ∀ packet now memory, RequestSink.offer packet now (g memory) =
    Prod.map id g (RequestSink.offer packet now memory)
  responseRetry : ∀ memory,
    RequestSink.responseRetry (g memory) = g (RequestSink.responseRetry memory)

/-- A map between requesters that issue requests of their own. -/
structure TrafficSource.Map [TrafficSource ρ] [TrafficSource ρ'] (f : ρ → ρ') : Prop
    extends ResponseSink.Map f where
  next : ∀ now requester, TrafficSource.next now (f requester) =
    (TrafficSource.next now requester).map (Prod.map id f)
  accepted : ∀ requester,
    TrafficSource.accepted (f requester) = f (TrafficSource.accepted requester)
  rejected : ∀ packet requester,
    TrafficSource.rejected packet (f requester) = f (TrafficSource.rejected packet requester)
  isFinished : ∀ requester,
    TrafficSource.isFinished (f requester) = TrafficSource.isFinished requester
  stats : ∀ requester, TrafficSource.stats (f requester) = TrafficSource.stats requester
  oversize? : ∀ requester,
    TrafficSource.oversize? (f requester) = TrafficSource.oversize? requester

/-- A map between memories that send responses of their own. -/
structure ResponseSource.Map [ResponseSource μ] [ResponseSource μ'] (g : μ → μ') : Prop
    extends RequestSink.Map g where
  takeReady : ∀ now memory, ResponseSource.takeReady now (g memory) =
    Prod.map id g (ResponseSource.takeReady now memory)
  putBack : ∀ packet now memory,
    ResponseSource.putBack packet now (g memory) = g (ResponseSource.putBack packet now memory)
  settleRetry : ∀ memory,
    ResponseSource.settleRetry (g memory) = Prod.map id g (ResponseSource.settleRetry memory)
  rejections : ∀ memory, ResponseSource.rejections (g memory) = ResponseSource.rejections memory
  oversize? : ∀ memory, ResponseSource.oversize? (g memory) = ResponseSource.oversize? memory

/-- Taking the record away is such a map. -/
theorem Recorded.requesterMap [TrafficSource ρ] :
    TrafficSource.Map (Recorded.peer : Recorded ρ → ρ) where
  offer _ _ _ := rfl
  requestRetry _ := rfl
  next now recorded := by
    simp only [TrafficSource.next]
    cases TrafficSource.next now recorded.peer <;> rfl
  accepted _ := rfl
  rejected _ _ := rfl
  isFinished _ := rfl
  stats _ := rfl
  oversize? _ := rfl

theorem Recorded.memoryMap [ResponseSource μ] :
    ResponseSource.Map (Recorded.peer : Recorded μ → μ) where
  offer _ _ _ := rfl
  responseRetry _ := rfl
  takeReady _ _ := rfl
  putBack _ _ _ := rfl
  settleRetry _ := rfl
  rejections _ := rfl
  oversize? _ := rfl

theorem TrafficSource.Map.comp {ρ'' : Type} [TrafficSource ρ] [TrafficSource ρ']
    [TrafficSource ρ''] {f : ρ → ρ'} {h : ρ' → ρ''} (second : TrafficSource.Map h)
    (first : TrafficSource.Map f) : TrafficSource.Map fun requester => h (f requester) where
  offer packet now requester := by rw [second.offer, first.offer]; rfl
  requestRetry requester := by rw [second.requestRetry, first.requestRetry]
  next now requester := by
    rw [second.next, first.next]
    cases TrafficSource.next now requester <;> rfl
  accepted requester := by rw [second.accepted, first.accepted]
  rejected packet requester := by rw [second.rejected, first.rejected]
  isFinished requester := by rw [second.isFinished, first.isFinished]
  stats requester := by rw [second.stats, first.stats]
  oversize? requester := by rw [second.oversize?, first.oversize?]

theorem ResponseSource.Map.refl [ResponseSource μ] : ResponseSource.Map (id : μ → μ) where
  offer _ _ _ := rfl
  responseRetry _ := rfl
  takeReady _ _ := rfl
  putBack _ _ _ := rfl
  settleRetry _ := rfl
  rejections _ := rfl
  oversize? _ := rfl

end GatedMemory
