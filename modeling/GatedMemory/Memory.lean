import GatedMemory.Error
import GatedMemory.Peer

/-!
The memory at the far end: a server with a fixed latency and a bounded number of requests in
service. It models time and occupancy only, and stores no data.
-/

set_option autoImplicit false

namespace GatedMemory

/-- Latency, concurrency and size of a memory. -/
structure MemoryConfig where
  /-- Ticks from accepting a request to its response being ready. -/
  accessLatency : Nat := 40
  /-- Requests in service at once. -/
  maxOutstanding : Nat := 8
  /-- Size of the one range served, which starts at zero. -/
  sizeBytes : Nat := 4 <<< 30
deriving DecidableEq

/-- A memory has to be able to serve something. -/
def MemoryConfig.validate (config : MemoryConfig) : Except ConfigDefect Unit :=
  if config.maxOutstanding = 0 then .error .memoryOutstanding else .ok ()

/-- A memory, as the responses that it still has to give. -/
structure MemoryModel where
  config : MemoryConfig
  /-- Responses and the tick each is due at, oldest first. -/
  serving : List (Nat × Packet)
  /-- The receiver refused a response and has not asked for it again. -/
  responseBlocked : Bool
  /-- A request was rejected and its sender is to be told when there is room. -/
  owesRetry : Bool
  accesses : Nat
  rejections : Nat
deriving DecidableEq

namespace MemoryModel

/-- A memory that serves nothing yet. -/
def idle (config : MemoryConfig) : MemoryModel :=
  { config, serving := [], responseBlocked := false, owesRetry := false,
    accesses := 0, rejections := 0 }

def occupancy (memory : MemoryModel) : Nat :=
  memory.serving.length

/-- Another request can be served. -/
def hasRoom (memory : MemoryModel) : Bool :=
  memory.serving.length < memory.config.maxOutstanding

/-- Takes a request into service, or hands it back when there is no room. A request that is not
answered takes no room. When the answer is due is added up exactly, and `oversize?` tells whether
a word holds it. -/
def offer (packet : Packet) (now : Nat) (memory : MemoryModel) : Delivery × MemoryModel :=
  if memory.hasRoom then
    let due := packet.response?.toList.map (now + memory.config.accessLatency, ·)
    (.accepted,
      { memory with accesses := memory.accesses + 1, serving := memory.serving ++ due })
  else
    (.rejected packet, { memory with owesRetry := true, rejections := memory.rejections + 1 })

/-- A tick that is due too late for a word. -/
def oversize? (memory : MemoryModel) : Option Oversize :=
  memory.serving.findSome? fun entry =>
    if large : UInt64.size ≤ entry.1 then some (.sum entry.1 large) else none

/-- `offer`, refusing a response that is due too late for a word. -/
def receive (packet : Packet) (now : Nat) (memory : MemoryModel) :
    Except Fault (Delivery × MemoryModel) :=
  let (delivery, memory) := memory.offer packet now
  match memory.oversize? with
  | some number => .error (.overflow number)
  | none => .ok (delivery, memory)

/-- Takes the oldest response out of service if it is due and responses are not blocked. -/
def takeReady (now : Nat) (memory : MemoryModel) : Option Packet × MemoryModel :=
  if memory.responseBlocked then (none, memory)
  else match memory.serving with
    | [] => (none, memory)
    | (due, packet) :: rest =>
      if due ≤ now then (some packet, { memory with serving := rest }) else (none, memory)

/-- A response that was taken out was refused: it goes first in line, and waits for a retry. -/
def putBack (packet : Packet) (now : Nat) (memory : MemoryModel) : MemoryModel :=
  { memory with responseBlocked := true, serving := (now, packet) :: memory.serving }

def responseRetry (memory : MemoryModel) : MemoryModel :=
  { memory with responseBlocked := false }

/-- Settles an owed retry, once there is room to honour it. -/
def settleRetry (memory : MemoryModel) : Bool × MemoryModel :=
  if memory.owesRetry && memory.hasRoom then (true, { memory with owesRetry := false })
  else (false, memory)

/-- An access at once, counted like any other. -/
def atomic (packet : Packet) (memory : MemoryModel) : (Nat × Packet) × MemoryModel :=
  ((memory.config.accessLatency, packet.settled),
    { memory with accesses := memory.accesses + 1 })

end MemoryModel

instance : RequestSink MemoryModel where
  offer := MemoryModel.offer
  responseRetry := MemoryModel.responseRetry
  ranges memory := [AddressRange.firstBytes memory.config.sizeBytes]
  functional packet memory := (packet.settled, memory)
  atomic := MemoryModel.atomic

end GatedMemory
