import GatedMemory.Event.Repeating
import GatedMemory.Intermediary
import GatedMemory.Memory
import GatedMemory.Summary
import GatedMemory.Traffic.Generator

/-!
A whole simulation: a requester and a memory on either side of a component, driven by a clock that
ticks once in every unit of time. At each tick the clock lets memory send a response, passes on a
retry that memory owes, and lets the requester send a request, in that order.
-/

set_option autoImplicit false

namespace GatedMemory

/-- A requester that issues requests of its own. -/
class TrafficSource (ρ : Type) extends ResponseSink ρ where
  /-- The request to offer now, if any. -/
  next : Nat → ρ → Except Fault (Option Packet × ρ)
  /-- The offered request was taken. -/
  accepted : ρ → ρ
  /-- The offered request came back. -/
  rejected : Packet → ρ → ρ
  /-- Nothing is left to wait for. -/
  isFinished : ρ → Bool
  stats : ρ → TrafficStats
  /-- A number among those kept that no word holds. -/
  oversize? : ρ → Option Oversize

/-- A memory that sends responses of its own. -/
class ResponseSource (μ : Type) extends RequestSink μ where
  /-- Takes out the response to send now, if any. -/
  takeReady : Nat → μ → Option Packet × μ
  /-- The response that was taken out came back. -/
  putBack : Packet → Nat → μ → μ
  /-- Settles a retry owed for a rejected request, if it can be honoured. -/
  settleRetry : μ → Bool × μ
  /-- Requests rejected so far. -/
  rejections : μ → Nat
  /-- A number among those kept that no word holds. -/
  oversize? : μ → Option Oversize

instance : TrafficSource RequestGenerator where
  next := RequestGenerator.next
  accepted := RequestGenerator.accepted
  rejected := RequestGenerator.rejected
  isFinished := RequestGenerator.isFinished
  stats := RequestGenerator.stats
  oversize? := RequestGenerator.oversize?

instance : ResponseSource MemoryModel where
  takeReady := MemoryModel.takeReady
  putBack := MemoryModel.putBack
  settleRetry := MemoryModel.settleRetry
  rejections := MemoryModel.rejections
  oversize? := MemoryModel.oversize?

/-- The events of a simulation: those of its component, and the ticks of its clock. -/
inductive SimulationEvent (ε : Type) where
  | component (event : ε)
  | clock

instance (ε : Type) : Embed ε (SimulationEvent ε) where
  embed := .component

/-- A component with both peers and the clock that drives them. -/
structure Simulation (κ ρ μ ε : Type) where
  rig : Rig κ ρ μ (SimulationEvent ε)
  clock : RepeatingEvent
  /-- When the requester had nothing left to wait for. -/
  finishedAt : Option Nat

namespace Simulation

variable {κ ε ρ μ : Type} [Intermediary κ ε]

/-- A simulation before its first tick. -/
def start (component : κ) (requester : ρ) (memory : μ) : Except Fault (Simulation κ ρ μ ε) := do
  let rig ← Intermediary.start (.assemble component requester memory)
  let (clock, events) ← (RepeatingEvent.idle Priority.external).scheduleNext rig.events 0 .clock
  return { rig := { rig with events }, clock, finishedAt := none }

def now (sim : Simulation κ ρ μ ε) : Nat :=
  sim.rig.now

variable [TrafficSource ρ] [ResponseSource μ]

/-- Lets memory send the response that is due. -/
def serveResponse (rig : Rig κ ρ μ (SimulationEvent ε)) :
    Except Fault (Rig κ ρ μ (SimulationEvent ε)) :=
  match ResponseSource.takeReady rig.now rig.memory with
  | (none, memory) => .ok { rig with memory }
  | (some packet, memory) => do
    let (delivery, rig) ← Intermediary.response packet { rig with memory }
    match delivery with
    | .accepted => return rig
    | .rejected packet =>
      return { rig with memory := ResponseSource.putBack packet rig.now rig.memory }

/-- Passes on the retry that memory owes. -/
def passRetry (rig : Rig κ ρ μ (SimulationEvent ε)) : Rig κ ρ μ (SimulationEvent ε) :=
  let (owed, memory) := ResponseSource.settleRetry rig.memory
  if owed then Intermediary.requestRetry { rig with memory } else { rig with memory }

/-- Lets the requester send its next request. -/
def issueRequest (rig : Rig κ ρ μ (SimulationEvent ε)) :
    Except Fault (Option RunError × Rig κ ρ μ (SimulationEvent ε)) := do
  match ← TrafficSource.next rig.now rig.requester with
  | (none, requester) => return (none, { rig with requester })
  | (some packet, requester) =>
    let (answer, rig) ← Intermediary.request packet { rig with requester }
    match answer with
    | .error error => return (some error, rig)
    | .ok .accepted =>
      return (none, { rig with requester := TrafficSource.accepted rig.requester })
    | .ok (.rejected packet) =>
      return (none, { rig with requester := TrafficSource.rejected packet rig.requester })

/-- Ends the run if the requester has nothing left to wait for, else schedules the next tick. -/
def finishOrContinue (sim : Simulation κ ρ μ ε) : Except Fault (Simulation κ ρ μ ε) :=
  let rig := sim.rig
  if TrafficSource.isFinished rig.requester then
    .ok { sim with rig := Intermediary.windDown rig, finishedAt := some rig.now }
  else do
    let tick ← addWords rig.now 1
    let (clock, events) ← sim.clock.scheduleNext rig.events tick .clock
    return { sim with rig := { rig with events }, clock }

/-- A tick of the clock. -/
def tick (sim : Simulation κ ρ μ ε) : Except Fault (Option RunError × Simulation κ ρ μ ε) := do
  let sim := { sim with clock := sim.clock.occurred }
  let rig ← serveResponse sim.rig
  let (failure, rig) ← issueRequest (passRetry rig)
  let sim := { sim with rig }
  match failure with
  | some error => return (some error, sim)
  | none => return (none, ← sim.finishOrContinue)

/-- An event is due, and nobody looks at the numbers that come of it. -/
def react (event : SimulationEvent ε) (sim : Simulation κ ρ μ ε) :
    Except Fault (Option RunError × Simulation κ ρ μ ε) :=
  match event with
  | .component event => do
    let (failure, rig) ← Intermediary.handle event sim.rig
    return (failure, { sim with rig })
  | .clock => sim.tick

/-- A number kept by one of the peers that no word holds. -/
def oversize? (sim : Simulation κ ρ μ ε) : Option Oversize :=
  (TrafficSource.oversize? sim.rig.requester).or (ResponseSource.oversize? sim.rig.memory)

/-- An event is due. The peers add up exactly what they keep; a sum that outgrew its word in the
event is met as a fault at the end of it. -/
def handle (event : SimulationEvent ε) (sim : Simulation κ ρ μ ε) :
    Except Fault (Option RunError × Simulation κ ρ μ ε) := do
  let (failure, sim) ← react event sim
  match sim.oversize? with
  | some number => throw (.overflow number)
  | none => return (failure, sim)

/-- `advance` for a bounded number of events. -/
def advanceWithin (limit : Nat) :
    Nat → Simulation κ ρ μ ε → Except Fault (Option RunError × Simulation κ ρ μ ε)
  | 0, sim => .ok (none, sim)
  | fuel + 1, sim =>
    match sim.rig.events.takeDue limit with
    | none => .ok (none, sim)
    | some (_, event, events) => do
      let (failure, sim) ← handle event { sim with rig := { sim.rig with events } }
      match failure with
      | some error => return (some error, sim)
      | none => advanceWithin limit fuel sim

/-- Processes the events that are due at `limit` or before. An error ends the run where it is. -/
def advance (limit : Nat) (sim : Simulation κ ρ μ ε) :
    Except Fault (Option RunError × Simulation κ ρ μ ε) :=
  advanceWithin limit (sim.rig.events.horizon limit) sim

/-- The summary of a finished run; a run that is not finished has stalled. -/
def summary (sim : Simulation κ ρ μ ε) : Except RunError RunSummary :=
  match sim.finishedAt with
  | none => .error (.stalled sim.now)
  | some ticks =>
    .ok {
      component := Intermediary.name κ
      ticks
      requester := TrafficSource.stats sim.rig.requester
      memoryRejections := ResponseSource.rejections sim.rig.memory }

/-- Runs until every response is back, for at most `maxTicks`. -/
def run (maxTicks : Nat) (sim : Simulation κ ρ μ ε) :
    Except Fault (Except RunError RunSummary × Simulation κ ρ μ ε) := do
  let (failure, sim) ← sim.advance maxTicks
  match failure with
  | some error => return (.error error, sim)
  | none => return (sim.summary, sim)

end Simulation

end GatedMemory
