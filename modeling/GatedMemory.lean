import GatedMemory.Main
import GatedMemory.Peer.Scripted
import GatedMemory.Proofs.Budget
import GatedMemory.Proofs.Classification
import GatedMemory.Proofs.DueOrder
import GatedMemory.Proofs.Fifo
import GatedMemory.Proofs.LazyQueue
import GatedMemory.Proofs.Link.ClosedForm
import GatedMemory.Proofs.Link.Contract
import GatedMemory.Proofs.Memory
import GatedMemory.Proofs.PassThrough.ClosedForm
import GatedMemory.Proofs.ReadShare
import GatedMemory.Proofs.RequestSide
import GatedMemory.Proofs.SecureModule.Admission
import GatedMemory.Proofs.SecureModule.Blocking
import GatedMemory.Proofs.SecureModule.ClosedForm
import GatedMemory.Proofs.SecureModule.Departures
import GatedMemory.Proofs.SecureModule.Handshakes
import GatedMemory.Proofs.SecureModule.Retries
import GatedMemory.Proofs.SecureModule.RoundTrips
import GatedMemory.Proofs.SecureModule.Spacing
import GatedMemory.Proofs.SequentialAccess
import GatedMemory.Proofs.SlotArena
import GatedMemory.Proofs.StaleHandles
