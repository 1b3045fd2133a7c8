/-!
Readiness markers for requests that wait out a latency. Each waiting request owns a slot; the
event that ends its wait carries only the slot's handle. A slot that was released is reused under
the next generation, and a handle of another generation has no effect.
-/

set_option autoImplicit false

namespace GatedMemory

/-- Handle of a slot: its place in the table and the generation it was reserved in. Both are
machine words, and the generation wraps. -/
structure SlotId where
  index : UInt32
  generation : UInt32
deriving DecidableEq

/-- Where a slot stands between its reservation and its release. -/
inductive SlotState where
  | free
  /-- Reserved, and the wait is not over. -/
  | pending
  | ready
deriving DecidableEq

/-- A slot, and how often it was released. -/
structure Slot where
  generation : UInt32
  state : SlotState
deriving DecidableEq

/-- The slots, and the places of the free ones, most recently released first. -/
structure SlotTable where
  slots : Array Slot
  free : List UInt32
deriving DecidableEq

namespace SlotTable

def empty : SlotTable :=
  { slots := #[], free := [] }

/-- The slot that a handle names, if it is reserved in the handle's generation. -/
def find? (table : SlotTable) (id : SlotId) : Option Slot :=
  table.slots[id.index.toNat]?.filter fun slot =>
    slot.generation == id.generation && slot.state != .free

/-- Overwrites the slot at a place. -/
def put (table : SlotTable) (index : UInt32) (slot : Slot) : SlotTable :=
  { table with slots := table.slots.setIfInBounds index.toNat slot }

/-- The generation of the slot at a place. -/
def generationAt (table : SlotTable) (index : UInt32) : UInt32 :=
  table.slots[index.toNat]?.elim 0 Slot.generation

/-- A place for a new marker: the most recently released one, or a new one at the end. -/
def takePlace (table : SlotTable) : UInt32 × SlotTable :=
  match table.free with
  | index :: free => (index, { table with free })
  | [] =>
    (UInt32.ofNat table.slots.size, { table with slots := table.slots.push ⟨0, .free⟩ })

/-- Reserves a marker that is not ready. -/
def acquire (table : SlotTable) : SlotId × SlotTable :=
  let (index, table) := table.takePlace
  let generation := table.generationAt index
  (⟨index, generation⟩, table.put index ⟨generation, .pending⟩)

/-- The wait of the marker is over. -/
def isReady (table : SlotTable) (id : SlotId) : Bool :=
  (table.find? id).any fun slot => slot.state == .ready

/-- The marker is reserved and its wait is not over. -/
def isWaiting (table : SlotTable) (id : SlotId) : Bool :=
  (table.find? id).any fun slot => slot.state == .pending

/-- Ends the wait of a marker. Without effect, and `false`, for a marker that is released or
ready. -/
def finish (table : SlotTable) (id : SlotId) : Bool × SlotTable :=
  if table.isWaiting id then (true, table.put id.index ⟨id.generation, .ready⟩)
  else (false, table)

/-- Gives a slot back; its handle is stale from then on. Without effect for a stale handle. -/
def release (table : SlotTable) (id : SlotId) : SlotTable :=
  if (table.find? id).isSome then
    let table := table.put id.index ⟨id.generation + 1, .free⟩
    { table with free := id.index :: table.free }
  else table

/-- The number of reserved slots. -/
def inUse (table : SlotTable) : Nat :=
  table.slots.size - table.free.length

end SlotTable

end GatedMemory
