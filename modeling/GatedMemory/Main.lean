import GatedMemory.CommandLine

/-!
The program: reads the arguments and the file that they name, and writes the answer.
-/

set_option autoImplicit false

open GatedMemory

/-- Reads a file, or tells why it cannot be read. -/
def readContent (path : String) : IO (Except FileDefect ByteArray) := do
  try
    return .ok (← IO.FS.readBinFile path)
  catch
    | .noFileOrDirectory .. => return .error .notFound
    | error => return .error (.refused (toString error))

def main (arguments : List String) : IO UInt32 := do
  match Options.parse? {} arguments with
  | none =>
    IO.eprint usageText
    return usageExitCode
  | some options =>
    let content ← match options.config with
      | some path => readContent path
      | none => pure (.ok .empty)
    let response := respond options content
    IO.print response.written
    IO.eprint response.errorText
    return response.exitCode
