import WritePolicy.CommandLine

/-! # The program

    Reads the files that the command names, runs it, prints and exits.
-/

open WritePolicy

/-- The contents of a file; nothing if it cannot be read. -/
def readFile? (file : String) : IO (Option String) := do
  try
    return some (← IO.FS.readFile file)
  catch _ =>
    return none

/-- The contents of several files. -/
def readFiles (files : List String) : IO CommandLine.Files := do
  let contents ← files.mapM fun file => do return (file, ← readFile? file)
  return fun file => (contents.lookup file).join

def main (args : List String) : IO UInt32 := do
  let named := ((CommandLine.parse? args).map CommandLine.Command.files).getD []
  let result := CommandLine.run (← readFiles named) args
  IO.print result.output
  return result.exitCode.toUInt32
