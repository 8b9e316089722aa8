import GridMachine.Machine.Error
import GridMachine.Machine.Event

/-!
The commands that a machine is asked with, and why one may fail.
-/

namespace GridMachine.Cli

/-- An event that is tried out on an entity. -/
structure Firing where
  /-- The state that the entity is in. -/
  state : String
  event : String
  /-- The evaluators that pass, by name or by type. -/
  passes : List String := []
  /-- The roles of the caller; without any, nobody asks for them. -/
  roles : List String := []
  /-- The parameters, each as a name and a value with an equals sign between them. -/
  params : List String := []

inductive Command where
  | check
  | states
  /-- The events out of a state, or all events, that a caller with the roles may trigger. -/
  | events (state : Option String) (roles : List String)
  | targets (state : String)
  | path (name : String)
  | fire (firing : Firing)

/-- The evaluators that a command lets pass. -/
def Command.passes : Command → List String
  | .fire firing => firing.passes
  | _ => []

inductive CommandError where
  | machine (error : MachineError)
  /-- None of the roles may trigger the event. -/
  | refused (roles : List String) (event : Event)
  | notKeyValue (param : String)
  /-- The file that holds the value of a parameter cannot be read. -/
  | unreadable (path : String)
  /-- The file that holds the value of a parameter is not JSON. -/
  | malformed (path : String)

def CommandError.message : CommandError → String
  | .machine error => error.message
  | .refused roles event =>
      "roles [" ++ Text.joinWith ", " roles ++ "] may not trigger " ++ event.display
  | .notKeyValue param => "parameter '" ++ param ++ "' is not KEY=VALUE"
  | .unreadable _ => "No such file or directory (os error 2)"
  | .malformed _ => "expected value at line 1 column 1"

end GridMachine.Cli
