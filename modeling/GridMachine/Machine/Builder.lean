import GridMachine.Machine.Definition

/-!
Definitions built step by step. Rules, paths and listeners may be added in any order; a path that is
given again replaces the one of its name and takes its place at the end.
-/

namespace GridMachine

structure Builder (ω E : Type) where
  rules : List (Rule ω E) := []
  paths : List (String × List String) := []
  listeners : List (Listener ω E) := []

namespace Builder

variable {ω E : Type}

def withRule (builder : Builder ω E) (rule : Rule ω E) : Builder ω E :=
  { builder with rules := builder.rules ++ [rule] }

/-- A transition without a guard and without actions. -/
def withTransition (builder : Builder ω E) (event : Event) (source target : State) : Builder ω E :=
  builder.withRule { event, source, target := .fixed target }

/-- A transition without a guard that runs the actions. -/
def withActions (builder : Builder ω E) (event : Event) (source target : State)
    (actions : List (Action ω E)) : Builder ω E :=
  builder.withRule { event, source, target := .fixed target, actions }

/-- A transition that is taken only if the evaluator passes. -/
def withGuardedTransition (builder : Builder ω E) (event : Event) (source target : State)
    (evaluator : Evaluator ω E) (actions : List (Action ω E)) : Builder ω E :=
  builder.withRule
    { event, source, target := .fixed target, evaluator := some evaluator, actions }

/-- A transition without a guard to a target of any kind. -/
def withTarget (builder : Builder ω E) (event : Event) (source : State) (target : Target ω E) :
    Builder ω E :=
  builder.withRule { event, source, target }

/-- A named path in place of the one of that name. -/
def withPath (builder : Builder ω E) (name : String) (path : List String) : Builder ω E :=
  { builder with paths := builder.paths.filter (fun entry => entry.1 ≠ name) ++ [(name, path)] }

def withDefaultPath (builder : Builder ω E) (path : List String) : Builder ω E :=
  builder.withPath Definition.defaultPathName path

def withListener (builder : Builder ω E) (listener : Listener ω E) : Builder ω E :=
  { builder with listeners := builder.listeners ++ [listener] }

/-- The definition, if its paths are made of its states. -/
def build (builder : Builder ω E) : Except MachineError (Definition ω E) :=
  Definition.assemble builder.rules builder.paths builder.listeners

end Builder

end GridMachine
