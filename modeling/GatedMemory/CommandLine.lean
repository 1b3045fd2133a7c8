import GatedMemory.Benchmark
import GatedMemory.Config.Reading

/-!
The command line: what the arguments mean, and what the program answers to them.
-/

set_option autoImplicit false

namespace GatedMemory

/-- What the arguments ask for. -/
structure Options where
  /-- A configuration file. -/
  config : Option String := none
  /-- A number of requests in place of the configured one. -/
  requests : Option Nat := none
  /-- The budget of ticks for each run. -/
  maxTicks : Option Nat := none
deriving DecidableEq

namespace Options

/-- Budget of ticks when none is given. -/
def defaultMaxTicks : Nat := 1000000

/-- The value of a row of decimal digits. -/
def digitsValue? (digits : List Char) : Option Nat :=
  if digits.isEmpty || !digits.all Char.isDigit then none
  else some (digits.foldl (fun value c => 10 * value + (c.toNat - '0'.toNat)) 0)

/-- A number below `2 ^ 64`: decimal digits, perhaps after a plus sign. -/
def count? (text : String) : Option Nat :=
  let digits := match text.toList with
    | '+' :: rest => rest
    | chars => chars
  (digitsValue? digits).filter (· < UInt64.size)

/-- Sets an option by its name; an option can be set once. -/
def set? (options : Options) (name value : String) : Option Options :=
  match name with
  | "config" =>
    if options.config.isSome || value.isEmpty then none
    else some { options with config := some value }
  | "requests" =>
    if options.requests.isSome then none
    else (count? value).map fun n => { options with requests := some n }
  | "max-ticks" =>
    if options.maxTicks.isSome then none
    else (count? value).map fun n => { options with maxTicks := some n }
  | _ => none

/-- The name of an option, and the value that is attached to it. -/
def split (text : List Char) : List Char × Option (List Char) :=
  let name := text.takeWhile (· != '=')
  match text.drop name.length with
  | [] => (name, none)
  | _ :: value => (name, some value)

/-- An argument can be a value if it does not look like an option. -/
def isValue (argument : String) : Bool :=
  match argument.toList with
  | ['-'] => true
  | '-' :: _ => false
  | _ => true

/-- Reads the arguments. Each names an option, whose value is attached or comes next; two dashes
alone may stand at the end. -/
def parse? (options : Options) : List String → Option Options
  | [] => some options
  | ["--"] => some options
  | argument :: rest =>
    match argument.toList with
    | '-' :: '-' :: text =>
      match split text, rest with
      | (name, some value), rest => do
        parse? (← options.set? (.ofList name) (.ofList value)) rest
      | (name, none), value :: rest =>
        if isValue value then do parse? (← options.set? (.ofList name) value) rest else none
      | _, [] => none
    | _ => none

end Options

/-- What the program answers. -/
structure Response where
  /-- The text on standard output. -/
  written : String
  failure : Option Failure

namespace Response

/-- A benchmark that succeeds exits with zero, any other with one. -/
def exitCode (response : Response) : UInt32 :=
  if response.failure.isSome then 1 else 0

/-- The text on standard error. -/
def errorText (response : Response) : String :=
  response.failure.elim "" Failure.text

end Response

/-- The exit code for arguments that mean nothing. -/
def usageExitCode : UInt32 := 2

/-- How the arguments are written. -/
def usageText : String :=
  "usage: [--config PATH] [--requests N] [--max-ticks N]\n"

/-- The configuration to run, given what the file that the options name contains. -/
def Options.settle (options : Options) (content : Except FileDefect ByteArray) :
    Except Failure BenchmarkConfig := do
  let config ← match options.config with
    | none => .ok {}
    | some path => (BenchmarkConfig.ofFile content).mapError (.during ("loading config " ++ path))
  return { config with
    workload := { config.workload with
      numRequests := options.requests.getD config.workload.numRequests } }

/-- Answers the options, given what the file that they name contains. -/
def respond (options : Options) (content : Except FileDefect ByteArray) : Response :=
  match options.settle content with
  | .error failure => { written := "", failure := some failure }
  | .ok config =>
    let maxTicks := options.maxTicks.getD Options.defaultMaxTicks
    match ((Benchmark.run config maxTicks).run).run "" with
    | (.ok (), written) => { written, failure := none }
    | (.error failure, written) => { written, failure := some failure }

end GatedMemory
