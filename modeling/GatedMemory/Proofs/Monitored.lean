import GatedMemory.Proofs.Recorded

set_option autoImplicit false

namespace GatedMemory

/-- What the sender of packets is told by their receiver. -/
inductive Signal where
  | refused (packet : Packet)
  | retry
deriving DecidableEq

namespace Signal

/-- Refusals and retries come in turn, a refusal first. A packet is outstanding while the retry that
answers its refusal has not come. -/
inductive Paired : List Signal → Option Packet → Prop where
  | quiet : Paired [] none
  | refused {signals : List Signal} (paired : Paired signals none) (packet : Packet) :
    Paired (signals ++ [.refused packet]) (some packet)
  | retry {signals : List Signal} {packet : Packet} (paired : Paired signals (some packet)) :
    Paired (signals ++ [.retry]) none

/-- The signals come in turn, and a retry is due exactly if the sender waits. -/
def Tell (signals : List Signal) (waits : Bool) : Prop :=
  ∃ outstanding, Paired signals outstanding ∧ outstanding.isSome = waits

theorem Tell.refused {signals : List Signal} (tell : Tell signals false) (packet : Packet) :
    Tell (signals ++ [.refused packet]) true := by
  obtain ⟨outstanding, paired, none⟩ := tell
  rw [Option.isSome_eq_false_iff, Option.isNone_iff_eq_none] at none
  subst none
  exact ⟨some packet, .refused paired packet, rfl⟩

theorem Tell.retry {signals : List Signal} (tell : Tell signals true) :
    Tell (signals ++ [.retry]) false := by
  obtain ⟨outstanding, paired, due⟩ := tell
  obtain ⟨packet, rfl⟩ := Option.isSome_iff_exists.1 due
  exact ⟨none, .retry paired, rfl⟩

end Signal

def Delivery.signals (delivery : Delivery) : List Signal :=
  delivery.returned?.toList.map .refused

/-- A peer, with the signals that passed between it and the component, oldest first. -/
structure Monitored (σ : Type) where
  peer : σ
  /-- About the requests that passed here. -/
  requests : List Signal
  /-- About the responses that passed here. -/
  responses : List Signal

namespace Monitored

variable {σ : Type}

def quiet (peer : σ) : Monitored σ :=
  { peer, requests := [], responses := [] }

def noteRequests (monitored : Monitored σ) (peer : σ) (signals : List Signal) : Monitored σ :=
  { monitored with peer, requests := monitored.requests ++ signals }

def noteResponses (monitored : Monitored σ) (peer : σ) (signals : List Signal) : Monitored σ :=
  { monitored with peer, responses := monitored.responses ++ signals }

end Monitored

variable {ρ μ : Type}

instance [ResponseSink ρ] : ResponseSink (Monitored ρ) where
  offer packet now monitored :=
    let (delivery, peer) := ResponseSink.offer packet now monitored.peer
    (delivery, monitored.noteResponses peer delivery.signals)
  requestRetry monitored :=
    monitored.noteRequests (ResponseSink.requestRetry monitored.peer) [.retry]
  rangeChange monitored := { monitored with peer := ResponseSink.rangeChange monitored.peer }

instance [RequestSink μ] : RequestSink (Monitored μ) where
  offer packet now monitored :=
    let (delivery, peer) := RequestSink.offer packet now monitored.peer
    (delivery, monitored.noteRequests peer delivery.signals)
  responseRetry monitored :=
    monitored.noteResponses (RequestSink.responseRetry monitored.peer) [.retry]
  ranges monitored := RequestSink.ranges monitored.peer
  functional packet monitored :=
    let (answer, peer) := RequestSink.functional packet monitored.peer
    (answer, { monitored with peer })
  atomic packet monitored :=
    let (answer, peer) := RequestSink.atomic packet monitored.peer
    (answer, { monitored with peer })

instance [TrafficSource ρ] : TrafficSource (Monitored ρ) where
  next now monitored := do
    let (packet, peer) ← TrafficSource.next now monitored.peer
    return (packet, { monitored with peer })
  accepted monitored := { monitored with peer := TrafficSource.accepted monitored.peer }
  rejected packet monitored :=
    monitored.noteRequests (TrafficSource.rejected packet monitored.peer) [.refused packet]
  isFinished monitored := TrafficSource.isFinished monitored.peer
  stats monitored := TrafficSource.stats monitored.peer
  oversize? monitored := TrafficSource.oversize? monitored.peer

instance [ResponseSource μ] : ResponseSource (Monitored μ) where
  takeReady now monitored :=
    let (packet, peer) := ResponseSource.takeReady now monitored.peer
    (packet, { monitored with peer })
  putBack packet now monitored :=
    monitored.noteResponses (ResponseSource.putBack packet now monitored.peer) [.refused packet]
  settleRetry monitored :=
    let (owed, peer) := ResponseSource.settleRetry monitored.peer
    (owed, monitored.noteRequests peer (if owed then [.retry] else []))
  rejections monitored := ResponseSource.rejections monitored.peer
  oversize? monitored := ResponseSource.oversize? monitored.peer

/-- A run between monitored peers is the run between the peers themselves. -/
theorem Monitored.requesterMap [TrafficSource ρ] :
    TrafficSource.Map (Monitored.peer : Monitored ρ → ρ) where
  offer _ _ _ := rfl
  requestRetry _ := rfl
  next now monitored := by
    simp only [TrafficSource.next]
    cases TrafficSource.next now monitored.peer <;> rfl
  accepted _ := rfl
  rejected _ _ := rfl
  isFinished _ := rfl
  stats _ := rfl
  oversize? _ := rfl

theorem Monitored.memoryMap [ResponseSource μ] :
    ResponseSource.Map (Monitored.peer : Monitored μ → μ) where
  offer _ _ _ := rfl
  responseRetry _ := rfl
  takeReady _ _ := rfl
  putBack _ _ _ := rfl
  settleRetry _ := rfl
  rejections _ := rfl
  oversize? _ := rfl

end GatedMemory
