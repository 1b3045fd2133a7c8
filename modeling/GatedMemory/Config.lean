import GatedMemory.Intermediary.Link
import GatedMemory.Intermediary.SecureModule
import GatedMemory.Memory
import GatedMemory.Traffic.Workload

/-!
The configuration of a benchmark: one part for each component and each peer.
-/

set_option autoImplicit false

namespace GatedMemory

/-- What a benchmark runs: every component and peer, each with its defaults. -/
structure BenchmarkConfig where
  secureModule : SecureModuleConfig := {}
  link : LinkConfig := {}
  memory : MemoryConfig := {}
  workload : Workload := {}

/-- Every part has to be valid; the first one that is not decides the error. -/
def BenchmarkConfig.validate (config : BenchmarkConfig) : Except ConfigDefect Unit := do
  config.secureModule.validate
  config.link.validate
  config.memory.validate
  config.workload.validate

end GatedMemory
