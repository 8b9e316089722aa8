import GridMachine.Cli.Answer
import GridMachine.Cli.Arguments

/-!
The program: it reads its command line and its configuration, loads the machine and answers one
command. All that it does is a function of its arguments, its environment and the files.
-/

namespace GridMachine.Cli

/-- What the program leaves behind. -/
structure Outcome where
  exitCode : Nat
  /-- What it writes to its output. -/
  output : String := ""
  /-- What it writes to its error output. -/
  errors : String := ""

namespace Outcome

def success (text : String) : Outcome := { exitCode := 0, output := text ++ "\n" }

def failure (text : String) : Outcome := { exitCode := 1, errors := text ++ "\n" }

/-- What comes of a command line that cannot be read. -/
def usage : Outcome :=
  { exitCode := 2, errors := "Usage: gridfsm --manifest <MANIFEST> [OPTIONS] <COMMAND>\n" }

end Outcome

def versionText : String := "gridfsm 0.1.0"

/-- A configuration error as the program reports it. -/
def describeConfigError (error : ConfigError) : String :=
  match error with
  | .unreadable _ => "IoError"
  | .malformed _ => "ParseError"
  | error => "ValidationError(" ++ Text.quoted (error.flaw?.getD "") ++ ")"

/-- The configuration before the command line has its say. What is wrong with one of the environment
alone is passed over, and the standard one is used. -/
def baseConfig (env : Environment) (files : Files) : Except ConfigError Config :=
  match Config.load env files with
  | .ok config => .ok config
  | .error error => if (env Config.fileVariable).isSome then .error error else .ok {}

/-- The configuration under which the machine is loaded. Without any directories from the command
line or the environment, the grid is looked for beside the manifest. -/
def configFor (env : Environment) (invocation : Invocation) (config : Config) : Config :=
  let resourceDirs :=
    if !invocation.resourceDirs.isEmpty then invocation.resourceDirs
    else if (env Config.resourceDirsVariable).isNone then [Path.parent invocation.manifest]
    else config.resourceDirs
  { resourceDirs, delimiter := invocation.delimiter.getD config.delimiter }

/-- Whether the program writes in colours. -/
def isColoured (env : Environment) (isTerminal : Bool) : Bool :=
  usesColour (env "CLICOLOR_FORCE") (env "NO_COLOR") (env "CLICOLOR") isTerminal

/-- What an invocation of the program comes to. -/
def carryOut (env : Environment) (isTerminal : Bool) (files : Files) (invocation : Invocation) :
    Outcome :=
  let isColoured := isColoured env isTerminal
  let error := paint isColoured .red "Error"
  match baseConfig env files with
  | .error cause => Outcome.failure ("Error: " ++ describeConfigError cause)
  | .ok config =>
      let config := configFor env invocation config
      match Session.load files invocation.manifest config invocation.command.passes with
      | .error cause => Outcome.failure (error ++ " [" ++ cause.code ++ "]: " ++ cause.message)
      | .ok session =>
          match session.execute files isColoured invocation.command with
          | .error cause => Outcome.failure (error ++ ": " ++ cause.message)
          | .ok text => Outcome.success text

/-- What the program does with its arguments. -/
def run (env : Environment) (isTerminal : Bool) (files : Files) (arguments : List String) :
    Outcome :=
  match readArguments env arguments with
  | .error .version => Outcome.success versionText
  | .error .usage => Outcome.usage
  | .ok invocation => carryOut env isTerminal files invocation

/-! ### Files that the program reads -/

/-- The files that a command reads by itself. -/
def Command.files : Command → List String
  | .fire firing =>
      firing.params.filterMap fun param =>
        match Text.splitFirst? '=' param.toList with
        | some (_, '@' :: file) => some (.ofList file)
        | _ => none
  | _ => []

/-- The files that the program may look at, as far as they can be told from those already known. -/
def lookups (env : Environment) (known : Files) (arguments : List String) : List String :=
  match readArguments env arguments with
  | .error _ => []
  | .ok invocation =>
      let grids :=
        match baseConfig env known, Manifest.ofFile known invocation.manifest with
        | .ok config, .ok manifest =>
            (configFor env invocation config).candidates manifest.definition
        | _, _ => []
      (env Config.fileVariable).toList ++ [invocation.manifest] ++ grids ++
        invocation.command.files

end GridMachine.Cli
