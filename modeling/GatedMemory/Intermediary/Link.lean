import GatedMemory.Clock
import GatedMemory.Intermediary

/-!
A link of fixed latency: each packet arrives a number of clock cycles later, in either direction.
The link holds back responses that the requester refused, but it cannot hold a request, so a memory
that rejects one is a defect of the configuration.
-/

set_option autoImplicit false

namespace GatedMemory

/-- The latency of a link, counted in cycles of its clock. -/
structure LinkConfig where
  /-- Cycles that a packet takes in either direction. -/
  latency : Nat := 1
  /-- Ticks of a cycle. -/
  clockPeriod : Nat := 1
deriving DecidableEq

/-- A clock has to tick. -/
def LinkConfig.validate (config : LinkConfig) : Except ConfigDefect Unit :=
  if config.clockPeriod = 0 then .error .linkClockPeriod else .ok ()

/-- A packet at the end of the link. -/
inductive LinkEvent where
  | requestArrives (packet : Packet)
  | responseArrives (packet : Packet)
deriving DecidableEq

/-- A link. The packets on their way are events; only responses that were refused are kept here. -/
structure FixedLatencyLink where
  config : LinkConfig
  /-- Responses that wait until the requester asks for them, oldest first. -/
  stalled : List Packet
  /-- The requester refused a response and has not asked since. -/
  responsesBlocked : Bool
deriving DecidableEq

namespace FixedLatencyLink

/-- The component's name in reports. -/
def label : String := "fixed_latency_link"

/-- A link that carries nothing, if its configuration is valid. -/
def build (config : LinkConfig) : Except RunError FixedLatencyLink :=
  match config.validate with
  | .ok () => .ok { config, stalled := [], responsesBlocked := false }
  | .error defect => .error (.invalidConfig defect)

variable {ρ μ α : Type}

/-- Schedules the arrival of a packet that enters the link now. -/
def send [Embed LinkEvent α] (event : LinkEvent) (rig : Rig FixedLatencyLink ρ μ α) :
    Except Fault (Rig FixedLatencyLink ρ μ α) := do
  let config := rig.component.config
  let arrival ← Clock.edge? rig.now config.latency config.clockPeriod
  let (_, events) ← rig.events.schedule arrival Priority.standard (Embed.embed event)
  return { rig with events }

/-- A response is at the end of the link: the requester gets it, unless others wait already. -/
def receiveResponse [ResponseSink ρ] (packet : Packet) (rig : Rig FixedLatencyLink ρ μ α) :
    Rig FixedLatencyLink ρ μ α :=
  let link := rig.component
  if link.responsesBlocked then
    { rig with component := { link with stalled := link.stalled ++ [packet] } }
  else match ResponseSink.offer packet rig.now rig.requester with
    | (.accepted, requester) => { rig with requester }
    | (.rejected packet, requester) =>
      { rig with
        requester
        component := { link with responsesBlocked := true, stalled := link.stalled ++ [packet] } }

/-- Offers packets in order until one comes back; what is left stays in order. -/
def offerAll [ResponseSink ρ] (now : Nat) : List Packet → ρ → List Packet × ρ
  | [], requester => ([], requester)
  | packet :: rest, requester =>
    match ResponseSink.offer packet now requester with
    | (.accepted, requester) => offerAll now rest requester
    | (.rejected packet, requester) => (packet :: rest, requester)

/-- The requester asks for the responses that wait. -/
def offerStalled [ResponseSink ρ] (rig : Rig FixedLatencyLink ρ μ α) :
    Rig FixedLatencyLink ρ μ α :=
  let (stalled, requester) := offerAll rig.now rig.component.stalled rig.requester
  { rig with
    requester
    component := { rig.component with stalled, responsesBlocked := !stalled.isEmpty } }

/-- A packet is at the end of the link. -/
def handle [ResponseSink ρ] [RequestSink μ] :
    LinkEvent → Rig FixedLatencyLink ρ μ α → Option RunError × Rig FixedLatencyLink ρ μ α
  | .requestArrives packet, rig =>
    match RequestSink.offer packet rig.now rig.memory with
    | (.accepted, memory) => (none, { rig with memory })
    | (.rejected packet, memory) =>
      (some (.requestRejected label packet.address), { rig with memory })
  | .responseArrives packet, rig => (none, receiveResponse packet rig)

end FixedLatencyLink

instance : Intermediary FixedLatencyLink LinkEvent where
  name := FixedLatencyLink.label
  start rig := .ok rig
  windDown rig := rig
  handle event rig := .ok (FixedLatencyLink.handle event rig)
  request packet rig := do
    let rig ← FixedLatencyLink.send (.requestArrives packet) rig
    return (.ok .accepted, rig)
  response packet rig := do
    let rig ← FixedLatencyLink.send (.responseArrives packet) rig
    return (.accepted, rig)
  responseRetry := FixedLatencyLink.offerStalled
  requestRetry rig := rig

end GatedMemory
