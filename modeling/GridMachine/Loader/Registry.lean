import GridMachine.Machine.Component
import GridMachine.NameMap
import GridMachine.Text.Quoted

/-!
Factories of components. A manifest gives components by their types, and a registry says how a
component of each type is built. All factories are handed the same parameter, and like the
components themselves they act on the world.
-/

namespace GridMachine

/-- Builds a component from the shared parameter, or says why it cannot. -/
abbrev Factory (π ω : Type) (α : Type) := π → ω → Except String α × ω

/-- The factory of a component that needs nothing. -/
def Factory.simple {π ω α : Type} (component : α) : Factory π ω α :=
  fun _ world => (.ok component, world)

structure Registry (π ω E : Type) where
  evaluators : NameMap (Factory π ω (Evaluator ω E)) := .empty
  actions : NameMap (Factory π ω (Action ω E)) := .empty

namespace Registry

variable {π ω E : Type}

/-- The registry with a factory for a type of evaluators, in place of an earlier one. -/
def withEvaluator (registry : Registry π ω E) (type : String)
    (factory : Factory π ω (Evaluator ω E)) : Registry π ω E :=
  { registry with evaluators := registry.evaluators.insert type factory }

/-- The registry with a factory for a type of actions, in place of an earlier one. -/
def withAction (registry : Registry π ω E) (type : String)
    (factory : Factory π ω (Action ω E)) : Registry π ω E :=
  { registry with actions := registry.actions.insert type factory }

def hasEvaluator (registry : Registry π ω E) (type : String) : Bool :=
  registry.evaluators.contains type

def hasAction (registry : Registry π ω E) (type : String) : Bool := registry.actions.contains type

/-- The types of evaluators in order. -/
def evaluatorTypes (registry : Registry π ω E) : List String := registry.evaluators.keys

/-- The types of actions in order. -/
def actionTypes (registry : Registry π ω E) : List String := registry.actions.keys

/-- The registry as it is shown in diagnostics. -/
def describe (registry : Registry π ω E) : String :=
  "ComponentRegistry \x7b evaluators: " ++ Text.quotedList registry.evaluatorTypes ++
    ", actions: " ++ Text.quotedList registry.actionTypes ++ " \x7d"

end Registry

end GridMachine
