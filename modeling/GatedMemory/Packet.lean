import GatedMemory.Address
import GatedMemory.Command

/-!
The unit of work that crosses a link: a request on its way down, its response on its way back.
-/

set_option autoImplicit false

namespace GatedMemory

/-- A memory request or response. -/
structure Packet where
  /-- Unique among the packets of one issuer. -/
  id : Nat
  command : Command
  address : Nat
  /-- Bytes accessed. -/
  size : Nat
  /-- Write data on a request, read data on a response. -/
  data : Array UInt8
  /-- When the issuer created the request; a response keeps it. -/
  createdAt : Nat
deriving DecidableEq

namespace Packet

/-- Bytes that a generated request accesses. -/
def accessSize : Nat := 64

/-- A read request of the default size. -/
def read (id : Nat) (address : Nat) (createdAt : Nat) : Packet :=
  { id, command := .readReq, address, size := accessSize, data := #[], createdAt }

/-- A write request of the default size, with zeros as its data. -/
def write (id : Nat) (address : Nat) (createdAt : Nat) : Packet :=
  { id, command := .writeReq, address, size := accessSize,
    data := Array.replicate accessSize 0, createdAt }

/-- The data of an answer: zeros for every byte that was read, nothing for a write. -/
def responseData (size : Nat) : Command → Array UInt8
  | .readResp => Array.replicate size 0
  | _ => #[]

/-- The packet that answers this one, if it is of a command that is answered. -/
def response? (packet : Packet) : Option Packet :=
  packet.command.response?.map fun command =>
    { packet with command, data := responseData packet.size command }

/-- An answer keeps everything but the command and the data. -/
theorem eq_of_response? {packet answer : Packet} (answered : packet.response? = some answer) :
    answer = { packet with command := answer.command, data := answer.data } := by
  obtain ⟨command, -, rfl⟩ := Option.map_eq_some_iff.1 answered
  rfl

/-- The answer, or the packet itself where none is due. -/
def settled (packet : Packet) : Packet :=
  packet.response?.getD packet

/-- One-line description: number, command, and the bytes accessed. -/
def text (packet : Packet) : String :=
  "#" ++ toString packet.id ++ " " ++ packet.command.name ++ " [" ++ Address.text packet.address ++
    ":" ++ toString packet.size ++ "]"

end Packet

end GatedMemory
