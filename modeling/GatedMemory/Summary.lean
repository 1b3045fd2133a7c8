import GatedMemory.Command
import GatedMemory.Decimal.Binary64

/-!
Counters of the peers and of the secure module, and the summary of a run.
-/

set_option autoImplicit false

namespace GatedMemory

/-- What a requester has seen. -/
structure TrafficStats where
  issued : Nat := 0
  rejected : Nat := 0
  responses : Nat := 0
  totalRoundTrip : Nat := 0
  maxRoundTrip : Nat := 0
  retriesReceived : Nat := 0
  rangeChanges : Nat := 0
deriving DecidableEq

/-- Counts a response and its round trip. -/
def TrafficStats.addResponse (stats : TrafficStats) (roundTrip : Nat) : TrafficStats :=
  { stats with
    responses := stats.responses + 1
    totalRoundTrip := stats.totalRoundTrip + roundTrip
    maxRoundTrip := max stats.maxRoundTrip roundTrip }

/-- Requests that the secure module admitted. -/
structure AdmissionStats where
  reads : Nat := 0
  writes : Nat := 0
deriving DecidableEq

namespace AdmissionStats

def total (stats : AdmissionStats) : Nat :=
  stats.reads + stats.writes

/-- Counts an admitted request by its kind. -/
def record (stats : AdmissionStats) : AccessKind → AdmissionStats
  | .read => { stats with reads := stats.reads + 1 }
  | .write => { stats with writes := stats.writes + 1 }
  | .other => stats

end AdmissionStats

/-- The summary of a run. -/
structure RunSummary where
  /-- The intermediary under test. -/
  component : String
  /-- When the last response reached the requester. -/
  ticks : Nat
  /-- What the requester saw. A request that it counts as rejected came back from the
  intermediary. -/
  requester : TrafficStats
  /-- Requests that memory handed back to the intermediary. -/
  memoryRejections : Nat
deriving DecidableEq

namespace RunSummary

/-- The mean round trip; zero without responses. -/
def averageRoundTrip (summary : RunSummary) : Float :=
  if summary.requester.responses = 0 then 0
  else .div (Decimal.Binary64.ofCount summary.requester.totalRoundTrip)
    (Decimal.Binary64.ofCount summary.requester.responses)

/-- How much longer the run took than a baseline, in parts of the baseline; zero if it did not, or
if the baseline took no time. -/
def slowdown (summary : RunSummary) (baseline : Nat) : Float :=
  if baseline = 0 ∨ summary.ticks ≤ baseline then 0
  else .div (Decimal.Binary64.ofCount (summary.ticks - baseline))
    (Decimal.Binary64.ofCount baseline)

/-- The slowdown in percent. -/
def slowdownPercent (summary : RunSummary) (baseline : Nat) : Float :=
  summary.slowdown baseline * 100

end RunSummary

end GatedMemory
