/-!
What can go wrong when a machine is built or run. A component reports its failure as a text.
-/

namespace GridMachine

inductive MachineError where
  /-- A path names a state that the machine does not have. -/
  | invalidPath (path state : String)
  | actionFailed (action cause : String)
  | listenerFailed (cause : String)
  | persistFailed (entityId cause : String)
deriving DecidableEq

namespace MachineError

def message : MachineError → String
  | .invalidPath path state =>
      "Failed to create path '" ++ path ++ "' for statemachine. The state name in the supplied " ++
        "path '" ++ state ++ "' could not be found in the defined states of the associated " ++
        "state machine definition matrix"
  | .actionFailed action cause => "transition action '" ++ action ++ "' failed: " ++ cause
  | .listenerFailed cause => "transition listener failed: " ++ cause
  | .persistFailed entityId cause => "failed to persist entity '" ++ entityId ++ "': " ++ cause

def code : MachineError → String
  | .invalidPath _ _ => "REFERENCE"
  | .actionFailed _ _ | .listenerFailed _ => "RUNTIME"
  | .persistFailed _ _ => "PERSISTENCE"

/-- Whether the failure happened within a transition, of which the effects so far remain. -/
def isPartialTransition : MachineError → Bool
  | .actionFailed _ _ | .listenerFailed _ => true
  | .invalidPath _ _ | .persistFailed _ _ => false

/-- The failure a component reported. -/
def cause? : MachineError → Option String
  | .invalidPath _ _ => none
  | .actionFailed _ cause | .listenerFailed cause | .persistFailed _ cause => some cause

end MachineError

end GridMachine
