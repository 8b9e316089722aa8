import GridMachine.Cli.Command
import GridMachine.Cli.Options
import GridMachine.Loader.Config

/-!
The command line of the program: options that say where the machine is, then the name of a command,
then the options of the command.
-/

namespace GridMachine.Cli

/-- What the program is asked to do. -/
structure Invocation where
  manifest : String
  resourceDirs : List String
  delimiter : Option Char
  command : Command

/-- A path that is not empty. -/
def isPath (value : String) : Bool := value ≠ ""

def isCharacter (value : String) : Bool := value.length = 1

/-- The options before the name of the command. -/
def programOptions : OptionTable where
  specs :=
    [{ name := "manifest", letter := some 'm', accepts := isPath },
      { name := "resource-dir", letter := some 'd', isRepeatable := true, accepts := isPath },
      { name := "delimiter", accepts := isCharacter }]
  hasVersion := true

def stateOption : OptionSpec := { name := "state", letter := some 's' }

def eventOption : OptionSpec := { name := "event", letter := some 'e' }

def roleOption : OptionSpec := { name := "role", letter := some 'r', isRepeatable := true }

def passOption : OptionSpec := { name := "pass", letter := some 'p', isRepeatable := true }

def paramOption : OptionSpec := { name := "param", isRepeatable := true }

/-- The options of a command that takes no other arguments. -/
def readAll (specs : List OptionSpec) (arguments : List String) : Except Stop OptionValues := do
  match ← OptionTable.read ⟨specs, false⟩ [] arguments with
  | (values, []) => return values
  | (values, ["--"]) => return values
  | _ => throw .usage

/-- The value of an option that has to be given. -/
def required (values : OptionValues) (spec : OptionSpec) : Except Stop String :=
  match values.get? spec.name with
  | some value => .ok value
  | none => .error .usage

/-- The path that the arguments name; the default one without a name. -/
def readPath (arguments : List String) : Except Stop Command := do
  match ← OptionTable.read ⟨[], false⟩ [] arguments with
  | (_, []) => return .path "default"
  | (_, "--" :: []) => return .path "default"
  | (_, "--" :: name :: []) => return .path name
  | (_, name :: rest) =>
      match ← OptionTable.read ⟨[], false⟩ [] rest with
      | (_, []) | (_, ["--"]) => return .path name
      | _ => throw .usage

/-- The command of a name with its arguments. -/
def readCommand (name : String) (arguments : List String) : Except Stop Command :=
  match name with
  | "check" => do
      let _ ← readAll [] arguments
      return .check
  | "states" => do
      let _ ← readAll [] arguments
      return .states
  | "events" => do
      let values ← readAll [stateOption, roleOption] arguments
      return .events (values.get? stateOption.name) (values.all roleOption.name)
  | "targets" => do
      let values ← readAll [stateOption] arguments
      return .targets (← required values stateOption)
  | "path" => readPath arguments
  | "fire" => do
      let values ←
        readAll [stateOption, eventOption, passOption, roleOption, paramOption] arguments
      let state ← required values stateOption
      let event ← required values eventOption
      return .fire {
        state
        event
        passes := values.all passOption.name
        roles := values.all roleOption.name
        params := values.all paramOption.name }
  | _ => throw .usage

/-- The variable that names the manifest where the command line does not. -/
def manifestVariable : String := "GRIDFSM_MANIFEST"

/-- The manifest that the command line names, or else the environment. -/
def manifestPath (env : Environment) (values : OptionValues) : Except Stop String :=
  match (values.get? "manifest").or (env manifestVariable) with
  | some path => if isPath path then .ok path else .error .usage
  | none => .error .usage

/-- What a command line asks the program to do. -/
def readArguments (env : Environment) (arguments : List String) : Except Stop Invocation := do
  match ← programOptions.read [] arguments with
  | (_, []) | (_, "--" :: _) => throw .usage
  | (values, name :: arguments) =>
      let command ← readCommand name arguments
      let manifest ← manifestPath env values
      return {
        manifest
        resourceDirs := values.all "resource-dir"
        delimiter := (values.get? "delimiter").bind (·.toList.head?)
        command }

end GridMachine.Cli
