import GatedMemory.Intermediary

/-!
The component that does nothing: each packet and each retry goes to the other side at once. It is
the baseline that the others are measured against.
-/

set_option autoImplicit false

namespace GatedMemory

/-- The component that does nothing has no state. -/
structure PassThrough where
deriving DecidableEq

instance : Intermediary PassThrough Empty where
  name := "pass_through"
  start rig := .ok rig
  windDown rig := rig
  handle event _ := nomatch event
  request packet rig :=
    let (delivery, memory) := RequestSink.offer packet rig.now rig.memory
    .ok (.ok delivery, { rig with memory })
  response packet rig :=
    let (delivery, requester) := ResponseSink.offer packet rig.now rig.requester
    .ok (delivery, { rig with requester })
  responseRetry rig := { rig with memory := RequestSink.responseRetry rig.memory }
  requestRetry rig := { rig with requester := ResponseSink.requestRetry rig.requester }

end GatedMemory
