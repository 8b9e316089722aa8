import GridMachine.Cli.Program

/-!
The command line program. The files it may look at are read beforehand: first those that the
arguments and the environment name, then those that the manifest names.
-/

namespace GridMachine.Main

/-- The variables that the program looks at. -/
def variableNames : List String :=
  [Config.fileVariable, Config.resourceDirsVariable, Config.delimiterVariable,
    Cli.manifestVariable, "CLICOLOR_FORCE", "NO_COLOR", "CLICOLOR"]

/-- The bytes of a file, if it can be read. -/
def readFile? (path : String) : IO (Option (List UInt8)) := do
  try
    return some (← IO.FS.readBinFile path).data.toList
  catch _ => return none

/-- The files at the paths. -/
def readFiles (paths : List String) : IO Files := do
  let contents ← paths.mapM fun path => do return (path, ← readFile? path)
  return fun path => (contents.lookup path).join

end GridMachine.Main

open GridMachine in
def main (arguments : List String) : IO UInt32 := do
  let values ← Main.variableNames.mapM fun name => do return (name, ← IO.getEnv name)
  let env : Environment := fun name => (values.lookup name).join
  let named ← Main.readFiles (Cli.lookups env (fun _ => none) arguments)
  let files ← Main.readFiles (Cli.lookups env named arguments)
  let isTerminal ← (← IO.getStdout).isTty
  let outcome := Cli.run env isTerminal files arguments
  IO.print outcome.output
  IO.eprint outcome.errors
  return outcome.exitCode.toUInt32
