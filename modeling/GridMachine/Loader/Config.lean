import GridMachine.Files
import GridMachine.Text.Blank
import GridMachine.Yaml.Outline

/-!
How grids are found and read. A configuration is the standard one, or is read from a file, and then
yields to what the environment says; a delimiter that the environment does not spell rightly and a
list of directories without a name in it are passed over.
-/

namespace GridMachine

/-- The values of environment variables. -/
abbrev Environment := String → Option String

structure Config where
  /-- The directories in which a grid is looked for, in order. -/
  resourceDirs : List String := ["."]
  /-- What stands between the fields of a grid. -/
  delimiter : Char := ','
deriving DecidableEq

inductive ConfigError where
  | unreadable (path : String)
  | malformed (path : String)
  | noResourceDirs
  | delimiterNotAscii (delimiter : Char)
  | delimiterReserved (delimiter : Char)
deriving DecidableEq

namespace ConfigError

/-- Why a configuration that could be read is not valid. -/
def flaw? : ConfigError → Option String
  | .unreadable _ | .malformed _ => none
  | .noResourceDirs => some "at least one resource directory is required"
  | .delimiterNotAscii delimiter =>
      some ("delimiter '" ++ .singleton delimiter ++ "' is not an ASCII character")
  | .delimiterReserved delimiter =>
      some ("delimiter '" ++ .singleton delimiter ++
        "' is reserved by the transition cell syntax")

def message : ConfigError → String
  | .unreadable path => "failed to read config file '" ++ path ++ "'"
  | .malformed path => "failed to parse config file '" ++ path ++ "'"
  | error => "configuration validation failed: " ++ error.flaw?.getD ""

def code : ConfigError → String
  | .unreadable _ => "RESOURCE"
  | .malformed _ => "FORMAT"
  | _ => "CONFIG"

end ConfigError

namespace Config

open Document

/-- The delimiters that cells and quotes have a use for. -/
def reservedDelimiters : List Char := ['/', '[', ']', '\x22']

/-- Why no grid can be read with the configuration, if so. -/
def validate (config : Config) : Except ConfigError Unit :=
  if config.resourceDirs.isEmpty then .error .noResourceDirs
  else if 128 ≤ config.delimiter.toNat then .error (.delimiterNotAscii config.delimiter)
  else if reservedDelimiters.contains config.delimiter then
    .error (.delimiterReserved config.delimiter)
  else .ok ()

/-- The byte that stands between the fields of a grid. -/
def delimiterByte (config : Config) : Except ConfigError UInt8 :=
  if 128 ≤ config.delimiter.toNat then .error (.delimiterNotAscii config.delimiter)
  else .ok config.delimiter.toNat.toUInt8

/-! ### Reading -/

/-- The fields of a configuration as far as they have been read. -/
structure Draft where
  resourceDirs : Option (List String) := none
  delimiter : Option Char := none

variable {α : Type} (reading : Reading α)

/-- A text of one character. -/
def readCharacter (node : Node α) : Except Fault Char := do
  match (← reading.text node).toList with
  | [c] => return c
  | _ => throw .malformed

/-- One field more. -/
def Draft.readField (draft : Draft) (name : String) (value : Node α) : Except Fault Draft :=
  match name with
  | "resource_dirs" => do
      let read ← Reading.once "resource_dirs" draft.resourceDirs reading.texts value
      return { draft with resourceDirs := read }
  | "delimiter" => do
      let read ← Reading.once "delimiter" draft.delimiter (readCharacter reading) value
      return { draft with delimiter := read }
  | _ => do
      Reading.skip value
      return draft

/-- The configuration that a record holds; what it leaves out is as in the standard one. -/
def ofRecord (node : Node α) : Except Fault Config := do
  let draft ← reading.record (Draft.readField reading) {} node
  let standard : Config := {}
  .ok
    { resourceDirs := draft.resourceDirs.getD standard.resourceDirs
      delimiter := draft.delimiter.getD standard.delimiter }

/-- The configuration that a YAML text holds. -/
def ofYamlText (cs : List Char) : Except Fault Config :=
  let parsed := Yaml.parse cs
  Reading.whole (ofRecord parsed.reading) parsed.outline

/-- The configuration in a file. -/
def ofFile (files : Files) (path : String) : Except ConfigError Config :=
  match files.text? path with
  | none => .error (.unreadable path)
  | some text => (ofYamlText text.toList).mapError fun _ => .malformed path

/-! ### Environment -/

/-- The variable that names the file of the configuration. -/
def fileVariable : String := "GRIDFSM_CONFIG"

def resourceDirsVariable : String := "GRIDFSM_RESOURCE_DIRS"

def delimiterVariable : String := "GRIDFSM_DELIMITER"

/-- The directories between colons, without blanks around them and without empty ones. -/
def splitDirs (text : String) : List String :=
  ((Text.splitOn ':' text.toList).map fun dir => String.ofList (Text.trim dir)).filter (· ≠ "")

/-- The delimiter that a text spells: a single character, or a word for the tab. -/
def delimiter? (text : String) : Option Char :=
  if text = "tab" || text = "\\t" then some '\t'
  else
    match text.toList with
    | [c] => some c
    | _ => none

/-- The configuration with what the environment says in place of its own fields. -/
def override (config : Config) (env : Environment) : Config :=
  let dirs := ((env resourceDirsVariable).map splitDirs).getD []
  { resourceDirs := if dirs.isEmpty then config.resourceDirs else dirs
    delimiter := ((env delimiterVariable).bind delimiter?).getD config.delimiter }

/-- The standard configuration under an environment. -/
def ofEnvironment (env : Environment) : Config := ({} : Config).override env

/-- The configuration under an environment, which may name a file for it. -/
def load (env : Environment) (files : Files) : Except ConfigError Config := do
  let config ←
    match env fileVariable with
    | none => pure {}
    | some path => ofFile files path
  let config := config.override env
  config.validate
  return config

/-! ### Finding grids -/

/-- The paths at which a grid may be, in the order in which they are tried. -/
def candidates (config : Config) (locator : String) : List String :=
  if Path.isAbsolute locator then [locator]
  else config.resourceDirs.map fun dir => Path.join dir locator

/-- The path of the grid: the first candidate that is a file. -/
def resolve? (config : Config) (files : Files) (locator : String) : Option String :=
  (config.candidates locator).find? files.isFile

end Config

end GridMachine
