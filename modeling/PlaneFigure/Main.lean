import PlaneFigure.CommandLine.Run

/-!
# The program

Reads the files that a command line names, runs it on them, and prints what comes of it. An
exit code of two stands for a command line that is not understood, one for any other failure.
-/

namespace PlaneFigure.CommandLine

/-- The file at a path, if it can be read. Of a folder only its being there is seen. -/
def fileAt (path : String) : IO (Option Entry) := do
  try
    return some (.file (← IO.FS.readBinFile path))
  catch
    | .inappropriateType .. => return some (.folder [])
    | _ => return none

/-- Run a command line on the files that it names, print the result, and return the exit
code. -/
def execute (arguments : List String) : IO UInt32 := do
  let found ← (paths arguments).mapM fun path => return (path, ← fileAt path)
  match run (fun path => (found.lookup path).join) arguments with
  | .ok printed =>
    IO.print printed.output
    if printed.noDiagram then IO.eprintln Panel.noDiagram
    return 0
  | .error failure =>
    IO.eprintln failure.message
    return failure.exitCode.toUInt32

end PlaneFigure.CommandLine

/-- The entry point. -/
def main (arguments : List String) : IO UInt32 := PlaneFigure.CommandLine.execute arguments
