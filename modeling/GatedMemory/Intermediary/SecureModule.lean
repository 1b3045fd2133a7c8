import GatedMemory.Clock
import GatedMemory.Event.Repeating
import GatedMemory.Gate
import GatedMemory.Intermediary
import GatedMemory.Summary

/-!
The secure module: every request waits in the gate for a security check whose latency depends on its
command. A driver runs at each clock edge, after the checks that end there: it offers one request to
memory and one response to the requester, then sends the retries that are owed.
-/

set_option autoImplicit false

namespace GatedMemory

/-- Capacities and latencies of a secure module. -/
structure SecureModuleConfig where
  /-- Requests that can queue. -/
  requestCapacity : Nat := 16
  /-- Responses that can queue. -/
  responseCapacity : Nat := 16
  /-- Cycles that each request waits. -/
  commonLatency : Nat := 1
  /-- Cycles that a read waits on top. -/
  readLatency : Nat := 2
  /-- Cycles that a write waits on top. -/
  writeLatency : Nat := 2
  /-- Ticks of a cycle. -/
  clockPeriod : Nat := 1
deriving DecidableEq

namespace SecureModuleConfig

/-- Queues have to hold something, and a clock has to tick. -/
def validate (config : SecureModuleConfig) : Except ConfigDefect Unit :=
  if config.requestCapacity = 0 ∨ config.responseCapacity = 0 then .error .moduleQueueSizes
  else if config.clockPeriod = 0 then .error .moduleClockPeriod
  else .ok ()

/-- Cycles that a request waits before it may go to memory; there is no policy for commands that
are neither reads nor writes. -/
def holdCycles (config : SecureModuleConfig) : AccessKind → Option Nat
  | .read => some (config.commonLatency + config.readLatency + 1)
  | .write => some (config.commonLatency + config.writeLatency + 1)
  | .other => none

/-- `holdCycles` as a word. -/
def holdCycles? (config : SecureModuleConfig) (kind : AccessKind) : Except Fault (Option Nat) :=
  match config.holdCycles kind with
  | some cycles => some <$> toWord cycles (.sum cycles)
  | none => .ok none

end SecureModuleConfig

/-- What the module does of itself. -/
inductive SecureEvent where
  /-- A clock edge. -/
  | edge
  /-- The security check of the request with this slot is over. -/
  | checkOver (slot : SlotId)
deriving DecidableEq

/-- A gate, the driver that empties it, and what it has admitted. -/
structure SecureModule where
  config : SecureModuleConfig
  gate : Gate
  driver : RepeatingEvent
  stats : AdmissionStats
deriving DecidableEq

namespace SecureModule

/-- A module with empty queues, if its configuration is valid. -/
def build (config : SecureModuleConfig) : Except RunError SecureModule :=
  match config.validate with
  | .ok () => .ok {
      config
      gate := .empty config.requestCapacity config.responseCapacity
      driver := .idle Priority.clock
      stats := {} }
  | .error defect => .error (.invalidConfig defect)

variable {ρ μ α : Type}

/-- Schedules the driver for the next clock edge. -/
def scheduleEdge [Embed SecureEvent α] (rig : Rig SecureModule ρ μ α) :
    Except Fault (Rig SecureModule ρ μ α) := do
  let edge ← Clock.edge? rig.now 1 rig.component.config.clockPeriod
  let payload := Embed.embed SecureEvent.edge
  let (driver, events) ← rig.component.driver.scheduleNext rig.events edge payload
  return { rig with component := { rig.component with driver }, events }

/-- Stops the driver for good. Checks that are under way still end. -/
def stop (rig : Rig SecureModule ρ μ α) : Rig SecureModule ρ μ α :=
  let (driver, events) := rig.component.driver.halt rig.events
  { rig with component := { rig.component with driver }, events }

/-- Offers the oldest request to memory if its check is over. -/
def drainRequest [RequestSink μ] (rig : Rig SecureModule ρ μ α) : Rig SecureModule ρ μ α :=
  let (_, gate, memory) := rig.component.gate.sendRequest rig.memory rig.now
  { rig with component := { rig.component with gate }, memory }

/-- Offers the oldest response to the requester. -/
def drainResponse [ResponseSink ρ] (rig : Rig SecureModule ρ μ α) : Rig SecureModule ρ μ α :=
  let (_, gate, requester) := rig.component.gate.sendResponse rig.requester rig.now
  { rig with component := { rig.component with gate }, requester }

/-- Sends the requester the retry it is owed. -/
def settleRequestRetry [ResponseSink ρ] (rig : Rig SecureModule ρ μ α) :
    Rig SecureModule ρ μ α :=
  let (owed, gate) := rig.component.gate.takeRequestRetry
  let rig := { rig with component := { rig.component with gate } }
  if owed then { rig with requester := ResponseSink.requestRetry rig.requester } else rig

/-- Sends memory the retry it is owed. -/
def settleResponseRetry [RequestSink μ] (rig : Rig SecureModule ρ μ α) :
    Rig SecureModule ρ μ α :=
  let (owed, gate) := rig.component.gate.takeResponseRetry
  let rig := { rig with component := { rig.component with gate } }
  if owed then { rig with memory := RequestSink.responseRetry rig.memory } else rig

/-- The driver's work at a clock edge, after which it is scheduled for the next one. -/
def onEdge [ResponseSink ρ] [RequestSink μ] [Embed SecureEvent α] (rig : Rig SecureModule ρ μ α) :
    Except Fault (Rig SecureModule ρ μ α) :=
  let driver := rig.component.driver.occurred
  let rig := { rig with component := { rig.component with driver } }
  scheduleEdge (settleResponseRetry (settleRequestRetry (drainResponse (drainRequest rig))))

/-- One of the module's events is due. -/
def handle [ResponseSink ρ] [RequestSink μ] [Embed SecureEvent α] :
    SecureEvent → Rig SecureModule ρ μ α → Except Fault (Rig SecureModule ρ μ α)
  | .edge, rig => onEdge rig
  | .checkOver slot, rig =>
    let (_, gate) := rig.component.gate.finishWait slot
    .ok { rig with component := { rig.component with gate } }

/-- Admits a request, or hands it back when the queue is full. A command without a latency policy
is refused outright. -/
def request [Embed SecureEvent α] (packet : Packet) (rig : Rig SecureModule ρ μ α) :
    Except Fault (Except RunError Delivery × Rig SecureModule ρ μ α) := do
  let module := rig.component
  let kind := packet.command.kind
  match ← module.config.holdCycles? kind with
  | none => return (.error (.unclassifiedCommand packet.command packet.address), rig)
  | some cycles =>
    let readyAt ← Clock.edge? rig.now cycles module.config.clockPeriod
    let elapsed slot := Embed.embed (SecureEvent.checkOver slot)
    let (delivery, gate, events) ← module.gate.admitRequest packet readyAt rig.events elapsed
    let stats := if delivery.isAccepted then module.stats.record kind else module.stats
    return (.ok delivery, { rig with component := { module with gate, stats }, events })

/-- Admits a response, or hands it back when the queue is full. -/
def response (packet : Packet) (rig : Rig SecureModule ρ μ α) :
    Delivery × Rig SecureModule ρ μ α :=
  let (delivery, gate) := rig.component.gate.admitResponse packet
  (delivery, { rig with component := { rig.component with gate } })

/-- The requester takes responses again; the driver sends them at its next edge. -/
def responseRetry (rig : Rig SecureModule ρ μ α) : Rig SecureModule ρ μ α :=
  { rig with component := { rig.component with gate := rig.component.gate.unblockRequester } }

/-- Memory takes requests again, and is offered the oldest one at once. -/
def requestRetry [RequestSink μ] (rig : Rig SecureModule ρ μ α) : Rig SecureModule ρ μ α :=
  let (_, gate, memory) := rig.component.gate.unblockMemory rig.memory rig.now
  { rig with component := { rig.component with gate }, memory }

end SecureModule

instance : Intermediary SecureModule SecureEvent where
  name := "secure_module"
  start := SecureModule.scheduleEdge
  windDown := SecureModule.stop
  handle event rig := do return (none, ← SecureModule.handle event rig)
  request := SecureModule.request
  response packet rig := .ok (SecureModule.response packet rig)
  responseRetry := SecureModule.responseRetry
  requestRetry := SecureModule.requestRetry

end GatedMemory
