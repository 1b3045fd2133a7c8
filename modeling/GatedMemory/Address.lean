import GatedMemory.Fault

/-!
Physical addresses and the half-open ranges of them that a memory serves.
-/

set_option autoImplicit false

namespace GatedMemory

/-- A byte address as it is displayed: lower-case hexadecimal digits after `0x`. -/
def Address.text (address : Nat) : String :=
  "0x" ++ String.ofList (Nat.toDigits 16 address)

/-- The addresses from `start` up to, but not including, `stop`. -/
structure AddressRange where
  start : Nat
  stop : Nat
  start_le_stop : start ≤ stop := by omega
deriving DecidableEq

namespace AddressRange

/-- The range with the given ends, refused when they are the wrong way round. -/
def between (start stop : Nat) : Except Fault AddressRange :=
  if ordered : start ≤ stop then .ok ⟨start, stop, ordered⟩ else .error .invertedRange

def contains (range : AddressRange) (address : Nat) : Bool :=
  range.start ≤ address && address < range.stop

/-- The number of addresses in the range. -/
def size (range : AddressRange) : Nat :=
  range.stop - range.start

/-- The first `bytes` addresses. -/
def firstBytes (bytes : Nat) : AddressRange :=
  ⟨0, bytes, Nat.zero_le bytes⟩

end AddressRange

end GatedMemory
