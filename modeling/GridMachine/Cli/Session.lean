import GridMachine.Loader.Compile

/-!
Machines loaded to be looked at. The components that a manifest names are not at hand, so each is
stood in for: an evaluator passes if it was asked to, and an action does nothing. Nothing acts on
the world, which is that of one value.
-/

namespace GridMachine.Cli

/-- An entity that has nothing but a state. -/
structure DryRun where
  state : State

instance : Stateful DryRun where
  state := DryRun.state
  setState state _ := ⟨state⟩
  id _ := "dry-run"

/-- The evaluator that stands in for a type, given the types that pass. -/
def standInEvaluator (type : String) (passing : List String) : Evaluator Unit DryRun where
  description := type
  evaluate _ world := (passing.contains type, world)

/-- Stand-ins for all types of components that the manifest names. -/
def standIns (manifest : Manifest) : Registry (List String) Unit DryRun :=
  let evaluators := manifest.evaluators.values.foldl (fun registry type =>
    registry.withEvaluator type fun passing world => (.ok (standInEvaluator type passing), world))
    {}
  manifest.actions.values.foldl
    (fun registry type => registry.withAction type (.simple (.idle type))) evaluators

/-- The types of the evaluators that pass, each given by its name in the manifest or by its type. -/
def passingTypes (manifest : Manifest) (passes : List String) : List String :=
  passes.map fun name => (manifest.evaluators.get? name).getD name

/-- A machine with the manifest that it was loaded from. -/
structure Session where
  manifest : Manifest
  definition : Definition Unit DryRun

/-- The machine of the manifest in a file, in which the evaluators in `passes` pass. -/
def Session.load (files : Files) (path : String) (config : Config) (passes : List String) :
    Except LoadError Session :=
  match files path with
  | none => .error (.unreadable path)
  | some text => do
      let manifest ← Manifest.ofFile files path
      let loader : Loader (List String) Unit DryRun :=
        { registry := standIns manifest, param := passingTypes manifest passes, config }
      let definition ← ((loader.load files text [] []).run ()).1
      return ⟨manifest, definition⟩

end GridMachine.Cli
