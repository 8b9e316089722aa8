import GridMachine.Document.Reading
import GridMachine.Grid.Basic
import GridMachine.Grid.Cell
import GridMachine.Grid.Header
import GridMachine.Loader.Config
import GridMachine.Machine.Error

/-!
What can go wrong on the way from a manifest to a machine. The first problem ends the way.
-/

namespace GridMachine

/-- The kinds of components that a manifest names. -/
inductive ComponentKind where
  | evaluator
  | action
deriving DecidableEq

def ComponentKind.name : ComponentKind → String
  | .evaluator => "transition evaluator"
  | .action => "transition action"

inductive LoadError where
  /-- No file is found where the manifest says that the grid is. -/
  | gridNotFound (locator : String)
  | unreadable (path : String)
  | manifest (fault : Document.Fault)
  | grid (error : GridError)
  | header (error : HeaderError)
  | cell (error : CellError)
  /-- No factory is known for the type of a component. -/
  | unregistered (kind : ComponentKind) (name type : String)
  /-- A factory failed. -/
  | construction (kind : ComponentKind) (type cause : String)
  | invalidTarget (state : String)
  | invalidDefaultPath (state : String)
  | duplicateStates (states : List String)
  | duplicateEvents (events : List String)
  | machine (error : MachineError)
  | config (error : ConfigError)
deriving DecidableEq

/-- What is wrong with a document, if more can be said than that it is malformed. -/
def Document.Fault.reason : Document.Fault → String
  | .malformed => ""
  | .missingField name => ": missing field \x60" ++ name ++ "\x60"
  | .duplicateField name => ": duplicate field \x60" ++ name ++ "\x60"

namespace LoadError

def message : LoadError → String
  | .gridNotFound locator => "Could not find state machine definition file '" ++ locator ++ "'"
  | .unreadable path => "failed to read '" ++ path ++ "'"
  | .manifest fault => "Failed to load manifest" ++ fault.reason
  | .grid error => error.message
  | .header error => error.message
  | .cell error => error.message
  | .unregistered kind name type =>
      "Failed to load " ++ kind.name ++ " type '" ++ type ++ "' defined in manifest for '" ++
        name ++ "': no factory is registered"
  | .construction kind type cause =>
      "Failed to construct new instance of " ++ kind.name ++ " type '" ++ type ++ "': " ++ cause
  | .invalidTarget state =>
      "Target state '" ++ state ++
        "' is invalid as it is not defined in the state machine definition matrix"
  | .invalidDefaultPath state =>
      "State '" ++ state ++
        "' in defaultPath is invalid as it is not defined in the state machine definition matrix"
  | .duplicateStates states => "Duplicate state(s) detected: [" ++ Text.joinWith ", " states ++ "]"
  | .duplicateEvents events => "Duplicate event(s) detected: [" ++ Text.joinWith ", " events ++ "]"
  | .machine error => error.message
  | .config error => error.message

def code : LoadError → String
  | .gridNotFound _ | .unreadable _ => "RESOURCE"
  | .manifest _ | .header _ => "FORMAT"
  | .grid error => error.code
  | .cell error => error.code
  | .unregistered _ _ _ | .construction _ _ _ => "CONSTRUCTION"
  | .invalidTarget _ | .invalidDefaultPath _ => "REFERENCE"
  | .duplicateStates _ | .duplicateEvents _ => "UNIQUENESS"
  | .machine error => error.code
  | .config error => error.code

end LoadError

end GridMachine
