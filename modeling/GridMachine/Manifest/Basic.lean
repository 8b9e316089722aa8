import GridMachine.NameMap

/-!
Manifests. A manifest says where the grid of a machine is and what the names in its cells mean: the
names of evaluators and of actions, each with the type of component that it stands for.
-/

namespace GridMachine

structure Manifest where
  /-- Where the grid is found. -/
  definition : String
  /-- What kind of entity the machine is for; for information only. -/
  entityType : Option String := none
  /-- The component type of each evaluator name. -/
  evaluators : NameMap String := .empty
  /-- The component type of each action name. -/
  actions : NameMap String := .empty
  /-- The states of the default path in order. -/
  defaultPath : Option (List String) := none
deriving DecidableEq

namespace Manifest

def hasEvaluator (manifest : Manifest) (name : String) : Bool := manifest.evaluators.contains name

def hasAction (manifest : Manifest) (name : String) : Bool := manifest.actions.contains name

end Manifest

end GridMachine
