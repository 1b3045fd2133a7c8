import GatedMemory.Proofs.Erasure

set_option autoImplicit false

namespace GatedMemory

variable {κ ε ρ μ : Type}

/-- What can be asked of a component from outside. -/
inductive Call (ε : Type) where
  | start
  | stop
  | request (packet : Packet)
  | response (packet : Packet)
  /-- Memory can take requests again. -/
  | requestRetry
  /-- The requester can take responses again. -/
  | responseRetry
  /-- An event of the component is processed, due or not. -/
  | event (event : ε)
  | rangeChange
  | functional (packet : Packet)
  | atomic (packet : Packet)
deriving DecidableEq

/-- Makes a call. A packet that is refused goes back to the caller. -/
def Rig.call [Intermediary κ ε] [ResponseSink ρ] [RequestSink μ] :
    Call ε → Rig κ ρ μ ε → Except Fault (Option Packet × Rig κ ρ μ ε)
  | .start, rig => do return (none, ← Intermediary.start rig)
  | .stop, rig => .ok (none, Intermediary.windDown rig)
  | .request packet, rig => do
    let (answer, rig) ← Intermediary.request packet rig
    return (answer.toOption.bind Delivery.returned?, rig)
  | .response packet, rig => do
    let (delivery, rig) ← Intermediary.response packet rig
    return (delivery.returned?, rig)
  | .requestRetry, rig => .ok (none, Intermediary.requestRetry rig)
  | .responseRetry, rig => .ok (none, Intermediary.responseRetry rig)
  | .event event, rig => do
    let (_, rig) ← Intermediary.handle event rig
    return (none, rig)
  | .rangeChange, rig => .ok (none, rig.rangeChange)
  | .functional packet, rig => .ok (none, (rig.functional packet).2)
  | .atomic packet, rig => .ok (none, (rig.atomic packet).2)

/-- One call, and what the component did until it was over. -/
structure Episode (κ ε : Type) where
  /-- The component as the call found it. -/
  component : κ
  call : Call ε
  /-- The packet that the caller got back. -/
  returned : Option Packet
  /-- What was done to the requester, oldest first. -/
  requester : List Exchange
  /-- What was done to memory, oldest first. -/
  memory : List Exchange

def Exchange.offer? : Exchange → Option (Packet × Delivery)
  | offered _ packet delivery => some (packet, delivery)
  | retried => none

namespace Episode

def responseOffers (episode : Episode κ ε) : List (Packet × Delivery) :=
  episode.requester.filterMap Exchange.offer?

def requestOffers (episode : Episode κ ε) : List (Packet × Delivery) :=
  episode.memory.filterMap Exchange.offer?

def requestRetries (episode : Episode κ ε) : Nat :=
  episode.requester.count .retried

def responseRetries (episode : Episode κ ε) : Nat :=
  episode.memory.count .retried

def refusesRequest (episode : Episode κ ε) : Bool :=
  match episode.call with
  | .request _ => episode.returned.isSome
  | _ => false

def refusesResponse (episode : Episode κ ε) : Bool :=
  match episode.call with
  | .response _ => episode.returned.isSome
  | _ => false

end Episode

/-- A history: whatever happens in it obeys a law that looks back at what happened before. -/
def Throughout {β : Type} (law : List β → β → Prop) (history : List β) : Prop :=
  ∀ before present after, history = before ++ present :: after → law before present

namespace Throughout

variable {β : Type} {law : List β → β → Prop} {past : List β} {last : β}

theorem nil : Throughout law [] := by
  intro before present after split
  simp at split

theorem concat (throughout : Throughout law past) (obeys : law past last) :
    Throughout law (past ++ [last]) := by
  intro before present after split
  rcases concat_eq_append_cons split with ⟨-, rfl, rfl⟩ | ⟨later, -, earlier⟩
  · exact obeys
  · exact throughout before present later earlier

end Throughout

/-- A component between two peers, and everything that was called on it, oldest first. -/
structure Diary (κ ε ρ μ : Type) where
  rig : Rig κ ρ μ ε
  episodes : List (Episode κ ε)

/-- What can happen to a component and its peers. -/
inductive Happening (ε ρ μ : Type) where
  | call (call : Call ε)
  /-- The next event fires. -/
  | fire
  /-- Time passes, as far as no event is due before. -/
  | wait (tick : Nat)
  /-- The peers change of themselves. -/
  | change (requester : ρ) (memory : μ)

namespace Diary

def blank (component : κ) (requester : ρ) (memory : μ) : Diary κ ε ρ μ :=
  { rig := .assemble component requester memory, episodes := [] }

variable [Intermediary κ ε] [ResponseSink ρ] [RequestSink μ]

/-- Makes a call, and notes it with what was done to the peers meanwhile. -/
def note (call : Call ε) (diary : Diary κ ε ρ μ) : Except Fault (Diary κ ε ρ μ) := do
  let (returned, rig) ← (diary.rig.map Recorded.blank Recorded.blank).call call
  let episode := {
    component := diary.rig.component, call, returned
    requester := rig.requester.log, memory := rig.memory.log }
  return { rig := rig.map Recorded.peer Recorded.peer, episodes := diary.episodes ++ [episode] }

/-- Lets something happen. -/
def live (diary : Diary κ ε ρ μ) : Happening ε ρ μ → Except Fault (Diary κ ε ρ μ)
  | .call call => diary.note call
  | .fire =>
    match diary.rig.events.takeNext with
    | none => .ok diary
    | some (_, event, events) =>
      note (.event event) { diary with rig := { diary.rig with events } }
  | .wait tick =>
    if ∀ entry ∈ diary.rig.events.pending, tick ≤ entry.tick then
      .ok { diary with rig := { diary.rig with events := diary.rig.events.moveTo tick } }
    else .ok diary
  | .change requester memory => .ok { diary with rig := { diary.rig with requester, memory } }

/-- What each call keeps true of the episodes and of the component, happenings of all kinds keep
true. -/
theorem live_keeps {invariant : List (Episode κ ε) → κ → Prop}
    (keeps : ∀ (diary : Diary κ ε ρ μ) (call : Call ε),
      invariant diary.episodes diary.rig.component →
        Gives Overflow (diary.note call) fun next => invariant next.episodes next.rig.component)
    (happenings : List (Happening ε ρ μ)) {diary : Diary κ ε ρ μ}
    (holds : invariant diary.episodes diary.rig.component) :
    Gives Overflow (happenings.foldlM live diary) fun next =>
      invariant next.episodes next.rig.component := by
  let kept (next : Diary κ ε ρ μ) : Prop := invariant next.episodes next.rig.component
  have step : ∀ diary happening, kept diary → Gives Overflow (diary.live happening) kept := by
    intro diary happening holds
    cases happening with
    | call call => exact keeps diary call holds
    | fire =>
      simp only [live]
      cases diary.rig.events.takeNext with
      | none => exact .ok holds
      | some fired => exact keeps _ (.event fired.2.1) holds
    | wait tick =>
      simp only [live]
      split
      · exact .ok holds
      · exact .ok holds
    | change requester memory => exact .ok holds
  exact Gives.foldlM step happenings holds

end Diary

end GatedMemory
