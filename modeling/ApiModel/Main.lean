import ApiModel.CommandLine.Report

/-!
The program: reads its arguments and the input file, writes the model, and prints on the error
output why there is none or what was reported.
-/

namespace ApiModel.CommandLine

/-- The text of a file, unless it cannot be read. -/
def readText? (path : String) : IO (Option String) := do
  try return some (← IO.FS.readFile path) catch _ => return none

/-- Writes to a file, whose directories are made, or prints. -/
def writeText (output : Option String) (text : String) : IO Unit := do
  match output with
  | none => IO.println text
  | some path =>
    let directories := "/".intercalate (path.splitOn "/").dropLast
    unless directories.isEmpty do IO.FS.createDirAll directories
    IO.FS.writeFile path text

def runProgram (args : Arguments) : IO UInt32 := do
  let ran := run args (← readText? args.input)
  if let some text := ran.written then writeText args.output text
  match ran.result with
  | .ok diagnostics =>
    for d in diagnostics do IO.eprintln d.text
    return 0
  | .error e =>
    IO.eprintln e.message
    return 1

end ApiModel.CommandLine

open ApiModel.CommandLine in
def main (args : List String) : IO UInt32 := do
  match Arguments.parse args (← IO.getEnv "MODELER_OPERATION_SEPARATOR") with
  | .ok args => runProgram args
  | .error e =>
    IO.eprintln e.message
    return 2
