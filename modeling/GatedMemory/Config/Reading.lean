import GatedMemory.Config
import GatedMemory.Traffic.KeyStream
import GatedMemory.Toml.Document

/-!
Configurations from text. Each part is a table whose known keys replace defaults; unknown keys are
ignored. A table may also be written as an array of its values in order.
-/

set_option autoImplicit false

namespace GatedMemory

open Toml (Value)

/-- A number that counts something. -/
def natOf : Value → Option Nat
  | .integer number => if 0 ≤ number then some number.toNat else none
  | _ => none

/-- The double nearest to a signed word. -/
def floatOfInt (number : Int) : Float :=
  let size := Decimal.Binary64.ofCount number.natAbs
  if number < 0 then -size else size

/-- A fraction, for which a whole number may stand. -/
def floatOf : Value → Option Float
  | .float number => some number
  | .integer number => some (floatOfInt number)
  | _ => none

/-- A key of a part, and how its value changes the part. -/
structure ConfigField (α : Type) where
  name : String
  set : Value → α → Option α

/-- A field that holds a count. -/
def natField {α : Type} (name : String) (set : Nat → α → α) : ConfigField α :=
  { name, set := fun value part => (natOf value).map fun number => set number part }

/-- Changes a part by the entries of a table; unknown keys are ignored. -/
def readEntries {α : Type} (fields : List (ConfigField α)) (part : α) (entries : Toml.Entries) :
    Option α :=
  entries.foldlM (fun part (name, value) =>
    match fields.find? fun field => field.name == name with
    | some field => field.set value part
    | none => some part) part

/-- Changes a part by values in the order of its fields; surplus values are ignored. -/
def readItems {α : Type} (fields : List (ConfigField α)) (part : α) (items : List Value) :
    Option α :=
  (fields.zip items).foldlM (fun part (field, value) => field.set value part) part

/-- The items of a value that lists something. -/
def itemsOf : Value → Option (List Value)
  | .array items => some items
  | .tables elements => some (elements.map (.table .declared))
  | _ => none

/-- Changes a part by a value. A date counts as a table without known keys. -/
def readPart {α : Type} (fields : List (ConfigField α)) (part : α) : Value → Option α
  | .table _ entries => readEntries fields part entries
  | .dateTime => some part
  | value => (itemsOf value).bind (readItems fields part)

/-- The count that a table gives under a name. -/
def natEntry (entries : Toml.Entries) (name : String) : Option Nat :=
  (entries.lookup name).bind natOf

/-- A pattern from a table, whose key `kind` decides which other key is needed. Keys that are not
needed are ignored. -/
def patternOfEntries (entries : Toml.Entries) : Option AccessPattern :=
  match entries.lookup "kind" with
  | some (.text "sequential") => some .sequential
  | some (.text "strided") => (natEntry entries "stride").map .strided
  | some (.text "random") =>
    (natEntry entries "seed").map fun seed => .random (KeyStream.stream seed)
  | _ => none

/-- A pattern from a list of its kind and the parameter of that kind, and nothing more. -/
def patternOfItems : List Value → Option AccessPattern
  | [.text "sequential"] => some .sequential
  | [.text "strided", value] => (natOf value).map .strided
  | [.text "random", value] => (natOf value).map fun seed => .random (KeyStream.stream seed)
  | _ => none

def patternOf : Value → Option AccessPattern
  | .table _ entries => patternOfEntries entries
  | value => (itemsOf value).bind patternOfItems

def secureModuleFields : List (ConfigField SecureModuleConfig) :=
  [natField "request_queue_size" fun n part => { part with requestCapacity := n },
    natField "response_queue_size" fun n part => { part with responseCapacity := n },
    natField "mem_issue_latency" fun n part => { part with commonLatency := n },
    natField "read_issue_latency" fun n part => { part with readLatency := n },
    natField "write_issue_latency" fun n part => { part with writeLatency := n },
    natField "clock_period" fun n part => { part with clockPeriod := n }]

def linkFields : List (ConfigField LinkConfig) :=
  [natField "latency" fun n part => { part with latency := n },
    natField "clock_period" fun n part => { part with clockPeriod := n }]

def memoryFields : List (ConfigField MemoryConfig) :=
  [natField "access_latency_ticks" fun n part => { part with accessLatency := n },
    natField "max_outstanding" fun n part => { part with maxOutstanding := n },
    natField "size_bytes" fun n part => { part with sizeBytes := n }]

def workloadFields : List (ConfigField Workload) :=
  [natField "num_requests" fun n part => { part with numRequests := n },
    { name := "read_fraction"
      set := fun value part => (floatOf value).map fun x => { part with readFraction := x } },
    { name := "access_pattern"
      set := fun value part => (patternOf value).map fun p => { part with pattern := p } },
    natField "line_size" fun n part => { part with lineSize := n },
    natField "working_set_lines" fun n part => { part with workingSetLines := n },
    natField "max_outstanding" fun n part => { part with maxOutstanding := n }]

/-- Each part is read on its own, from its defaults. -/
def configFields : List (ConfigField BenchmarkConfig) :=
  [{ name := "secure_module"
     set := fun value config => (readPart secureModuleFields {} value).map fun part =>
      { config with secureModule := part } },
    { name := "link"
      set := fun value config => (readPart linkFields {} value).map fun part =>
        { config with link := part } },
    { name := "memory"
      set := fun value config => (readPart memoryFields {} value).map fun part =>
        { config with memory := part } },
    { name := "workload"
      set := fun value config => (readPart workloadFields {} value).map fun part =>
        { config with workload := part } }]

namespace BenchmarkConfig

/-- Reads a configuration and validates it. -/
def ofText (text : String) : Except RunError BenchmarkConfig :=
  match (Toml.document? text).bind (readPart configFields {}) with
  | none => .error .malformedConfig
  | some config =>
    match config.validate with
    | .ok () => .ok config
    | .error defect => .error (.invalidConfig defect)

/-- Reads a configuration from the bytes of a file, or says why there are none. -/
def ofFile (content : Except FileDefect ByteArray) : Except RunError BenchmarkConfig :=
  match content with
  | .error defect => .error (.unreadableFile defect)
  | .ok bytes =>
    match String.fromUTF8? bytes with
    | none => .error (.unreadableFile .notText)
    | some text => ofText text

end BenchmarkConfig

end GatedMemory
