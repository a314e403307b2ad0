/-
  The program: arguments and files from the system, output to it.
-/
import FunctionCalling.CommandLine
import FunctionCalling.Files

namespace FunctionCalling.CommandLine

/-- What an error of the system means for a file that is to be read; the numbers are those of
    the system. -/
def readFault : IO.Error → ReadFault
  | .noFileOrDirectory .. => .notFound
  | .inappropriateType _ 20 _ => .notDirectory
  | .inappropriateType _ 21 _ => .isDirectory
  | .invalidArgument _ 36 _ => .nameTooLong
  | e => .other (toString e)

/-- Reads a file as text. -/
def readFile (path : String) : IO (Except ReadFault String) := do
  match ← (IO.FS.readBinFile path).toBaseIO with
  | .ok bytes => return readText bytes
  | .error e => return .error (readFault e)

end FunctionCalling.CommandLine

open FunctionCalling.CommandLine in
/-- Runs the program and ends as it says. -/
def main (arguments : List String) : IO UInt32 := do
  let ending ← program readFile arguments
  IO.print ending.output
  IO.eprint ending.errors
  return ending.code.toUInt32
