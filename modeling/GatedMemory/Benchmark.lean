import GatedMemory.Config
import GatedMemory.Intermediary.PassThrough
import GatedMemory.Simulation

/-!
The benchmark: one workload through each component in turn, with a report on each run and on how
much slower than the baseline the others are.
-/

set_option autoImplicit false

namespace GatedMemory

/-- Why a benchmark ended early. -/
inductive Failure where
  /-- An error, and what was being done. -/
  | during (activity : String) (error : RunError)
  /-- An error that needs no explanation. -/
  | outright (error : RunError)
  /-- A broken precondition. -/
  | broken (fault : Fault)

/-- The texts of an error and of what caused it in turn. -/
def RunError.chain (error : RunError) : List String :=
  match error with
  | .unreadableFile defect => [error.message, defect.message]
  | _ => [error.message]

namespace Failure

/-- The causes below a headline; several are numbered. -/
def causesText : List String → String
  | [] => ""
  | [cause] => "\n\nCaused by:\n    " ++ cause
  | causes => "\n\nCaused by:" ++ String.join (causes.zipIdx.map fun (cause, index) =>
      "\n    " ++ toString index ++ ": " ++ cause)

/-- The report of a failure. -/
def text : Failure → String
  | during activity error => "Error: " ++ activity ++ causesText error.chain ++ "\n"
  | outright error => "Error: " ++ error.message ++ causesText error.chain.tail ++ "\n"
  | broken fault => "Error: " ++ fault.message ++ "\n"

end Failure

namespace Benchmark

/-- A computation that writes a report. What was written stays when it fails. -/
abbrev Transcript := ExceptT Failure (StateM String)

def write (text : String) : Transcript Unit :=
  modify fun (written : String) => written ++ text

/-- Runs a component between fresh peers. -/
def measure {κ ε : Type} [Intermediary κ ε] (activity : String) (config : BenchmarkConfig)
    (maxTicks : Nat) (component : κ) : Transcript (RunSummary × κ) :=
  let requester := RequestGenerator.fresh config.workload
  let memory := MemoryModel.idle config.memory
  match Simulation.start component requester memory >>= Simulation.run maxTicks with
  | .error fault => throw (.broken fault)
  | .ok (.error error, _) => throw (.during activity error)
  | .ok (.ok summary, sim) => return (summary, sim.rig.component)

/-- A component that can be built, or the reason why it cannot. -/
def require {κ : Type} : Except RunError κ → Transcript κ
  | .ok component => return component
  | .error error => throw (.outright error)

/-- A line of a report on a run: a label, and a value in a column of its own. -/
def entry (label value : String) : String :=
  "  " ++ label ++ ":" ++ String.ofList (List.replicate (20 - label.length) ' ') ++ value ++ "\n"

/-- Numbers with a fraction are reported to two places. -/
def twoPlaces (x : Float) : String :=
  Decimal.fixedText 2 x

/-- The report on a run. -/
def runText (title : String) (run : RunSummary) : String :=
  "--- " ++ title ++ " (" ++ run.component ++ ") ---\n" ++
  entry "Total ticks" (toString run.ticks) ++
  entry "Responses" (toString run.requester.responses) ++
  entry "Avg round trip" (twoPlaces run.averageRoundTrip) ++
  entry "Max round trip" (toString run.requester.maxRoundTrip) ++
  entry "Request rejections" (toString run.requester.rejected) ++
  entry "Memory rejections" (toString run.memoryRejections)

/-- The report on what a secure module admitted. -/
def statsText (stats : AdmissionStats) : String :=
  entry "Read requests" (toString stats.reads) ++ entry "Write requests" (toString stats.writes)

/-- The report on how much slower than the baseline a run was. -/
def slowdownText (label : String) (run : RunSummary) (baseline : Nat) : String :=
  entry label (twoPlaces (run.slowdownPercent baseline) ++ "%")

/-- The whole benchmark, with a budget of ticks for each run. -/
def run (config : BenchmarkConfig) (maxTicks : Nat) : Transcript Unit := do
  write "=== Secure Memory Module Benchmark ===\n\n"
  let (baseline, _) ← measure "pass-through run" config maxTicks ({} : PassThrough)
  write (runText "Baseline" baseline)
  let link ← require (FixedLatencyLink.build config.link)
  let (linked, _) ← measure "fixed-latency link run" config maxTicks link
  write ("\n" ++ runText "Fixed-latency link" linked)
  let module ← require (SecureModule.build config.secureModule)
  let (guarded, module) ← measure "secure module run" config maxTicks module
  write ("\n" ++ runText "Secure module" guarded)
  write (statsText module.stats)
  write "\n--- Quantified slowdown vs baseline ---\n"
  write (slowdownText "Fixed-latency link" linked baseline.ticks)
  write (slowdownText "Secure module" guarded baseline.ticks)

end Benchmark

end GatedMemory
