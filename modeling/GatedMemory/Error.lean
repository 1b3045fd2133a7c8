import GatedMemory.Address
import GatedMemory.Command
import GatedMemory.Decimal.Text

/-!
Defects that a run reports. Backpressure is none of them: a full queue or a busy peer hands the
packet back.
-/

set_option autoImplicit false

namespace GatedMemory

/-- A setting that no component can be built from. -/
inductive ConfigDefect where
  | moduleQueueSizes
  | moduleClockPeriod
  | linkClockPeriod
  | memoryOutstanding
  | readFraction (value : Float)
  | lineSize
  | workloadOutstanding

def ConfigDefect.message : ConfigDefect → String
  | moduleQueueSizes => "secure module queue sizes must be non-zero"
  | moduleClockPeriod => "secure module clock period must be non-zero"
  | linkClockPeriod => "link clock period must be non-zero"
  | memoryOutstanding => "memory max_outstanding must be non-zero"
  | readFraction value => "read_fraction " ++ Decimal.shortestText value ++ " outside 0..=1"
  | lineSize => "line_size must be non-zero"
  | workloadOutstanding => "workload max_outstanding must be non-zero"

/-- Why the text of a file could not be had. -/
inductive FileDefect where
  | notFound
  | notText
  /-- Any other refusal, in the words of the file system. -/
  | refused (reason : String)
deriving DecidableEq

def FileDefect.message : FileDefect → String
  | notFound => "No such file or directory (os error 2)"
  | notText => "stream did not contain valid UTF-8"
  | refused reason => reason

/-- An outcome that ends a run, or keeps one from starting. -/
inductive RunError where
  /-- A command that is neither a read nor a write met a latency policy. -/
  | unclassifiedCommand (command : Command) (address : Nat)
  | invalidConfig (defect : ConfigDefect)
  /-- A peer handed a packet back to a component that cannot hold it. -/
  | requestRejected (component : String) (address : Nat)
  /-- The tick budget was spent before every response was back. -/
  | stalled (tick : Nat)
  | unreadableFile (defect : FileDefect)
  /-- The text of a configuration is not well formed, or has values of the wrong kind. -/
  | malformedConfig

def RunError.message : RunError → String
  | unclassifiedCommand command address =>
    "unclassifiable command " ++ command.name ++ " for addr " ++ Address.text address
  | invalidConfig defect => "invalid configuration: " ++ defect.message
  | requestRejected component address =>
    component ++ ": downstream rejected request for addr " ++ Address.text address
  | stalled tick => "simulation stalled at tick " ++ toString tick
  | unreadableFile defect => "I/O error: " ++ defect.message
  | malformedConfig => "config parse error"

end GatedMemory
