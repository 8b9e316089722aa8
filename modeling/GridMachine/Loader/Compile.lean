import GridMachine.Loader.Check
import GridMachine.Manifest.Reader

/-!
Machines compiled from manifests and grids. The transitions of a grid are taken row by row and cell
by cell; each gives one rule, whose components are built as it is met. The first problem ends the
compilation, and nothing is left of it but what the factories did to the world.
-/

namespace GridMachine

/-- A step on the way to a machine, which may fail and may act on the world. -/
abbrev Load (ω α : Type) := ExceptT LoadError (StateM ω) α

/-- A step that does not act on the world, with its failure told as one of loading. -/
def Load.ofExcept {ε ω α : Type} (tell : ε → LoadError) : Except ε α → Load ω α
  | .ok value => pure value
  | .error error => throw (tell error)

/-- An action that every transition to a state runs after its own. -/
structure ActionOverride (ω E : Type) where
  target : State
  action : Action ω E

/-- What compiles machines: factories, the parameter that they share, and a configuration. -/
structure Loader (π ω E : Type) where
  registry : Registry π ω E
  param : π
  config : Config := {}

/-- A cell with its place in a grid. -/
structure Site where
  event : Event
  source : State
  cell : String

/-- The cells of a grid, row by row; a cell beyond the events has no place. -/
def Grid.sites (grid : Grid) (events : List Event) : List Site :=
  grid.rows.flatMap fun row =>
    row.cells.zipWith (fun cell event => ⟨event, ⟨row.state⟩, cell⟩) events

/-- What is wrong with a cell that names a component which the manifest does not know. -/
def ComponentKind.unknown : ComponentKind → String → CellError
  | .evaluator => .unknownEvaluator
  | .action => .unknownAction

namespace Loader

variable {π ω E : Type}

/-- Builds the component that the manifest knows under a name. -/
def build {α : Type} (kind : ComponentKind) (types : NameMap String)
    (factories : NameMap (Factory π ω α)) (param : π) (name : String) : Load ω α :=
  match types.get? name with
  | none => throw (.cell (kind.unknown name))
  | some type =>
      match factories.get? type with
      | none => throw (.unregistered kind name type)
      | some factory => do
          let outcome ← ExceptT.lift (factory param)
          Load.ofExcept (.construction kind type) outcome

def buildEvaluator (loader : Loader π ω E) (manifest : Manifest) (name : String) :
    Load ω (Evaluator ω E) :=
  build .evaluator manifest.evaluators loader.registry.evaluators loader.param name

def buildAction (loader : Loader π ω E) (manifest : Manifest) (name : String) :
    Load ω (Action ω E) :=
  build .action manifest.actions loader.registry.actions loader.param name

/-- The actions that overrides add to a transition: that of the first one for its target. -/
def extraActions (overrides : List (ActionOverride ω E)) (target : State) : List (Action ω E) :=
  ((overrides.find? fun override => override.target = target).map ActionOverride.action).toList

/-- The rule of one transition of a cell. -/
def ruleOf (loader : Loader π ω E) (manifest : Manifest) (overrides : List (ActionOverride ω E))
    (site : Site) (transition : CellTransition) : Load ω (Rule ω E) := do
  let evaluator ← transition.evaluator.mapM (loader.buildEvaluator manifest)
  let action ← transition.action.mapM (loader.buildAction manifest)
  let target : State := ⟨transition.target⟩
  return {
    event := site.event
    source := site.source
    target := .fixed target
    evaluator
    actions := action.toList ++ extraActions overrides target }

/-- The rules of a cell. -/
def rulesOfSite (loader : Loader π ω E) (manifest : Manifest)
    (overrides : List (ActionOverride ω E)) (site : Site) : Load ω (List (Rule ω E)) := do
  let transitions ← Load.ofExcept .cell (Cell.parse manifest site.cell)
  transitions.mapM (loader.ruleOf manifest overrides site)

/-- The rules of a grid, given the events of its columns. -/
def rulesOf (loader : Loader π ω E) (manifest : Manifest) (overrides : List (ActionOverride ω E))
    (grid : Grid) (events : List Event) : Load ω (List (Rule ω E)) := do
  let rules ← (grid.sites events).mapM (loader.rulesOfSite manifest overrides)
  return rules.flatten

/-- The machine of a manifest and the text of its grid. -/
def compile (loader : Loader π ω E) (manifest : Manifest) (text : List UInt8)
    (overrides : List (ActionOverride ω E)) (listeners : List (Listener ω E)) :
    Load ω (Definition ω E) := do
  Load.ofExcept .config loader.config.validate
  Load.ofExcept id (checkTypes loader.registry manifest)
  let delimiter ← Load.ofExcept .config loader.config.delimiterByte
  let grid ← Load.ofExcept .grid (Grid.read delimiter text)
  let events ← Load.ofExcept .header (grid.events.mapM Header.parse)
  let rules ← loader.rulesOf manifest overrides grid events
  Load.ofExcept id (checkRules manifest grid rules)
  Load.ofExcept .machine (Definition.ofRules rules manifest.defaultPath listeners)

/-- The machine of the manifest that a text holds, with the grid that is found in the files. -/
def load (loader : Loader π ω E) (files : Files) (text : List UInt8)
    (overrides : List (ActionOverride ω E)) (listeners : List (Listener ω E)) :
    Load ω (Definition ω E) := do
  Load.ofExcept .config loader.config.validate
  let manifest ← Load.ofExcept .manifest (Manifest.ofBytes text)
  match loader.config.resolve? files manifest.definition with
  | none => throw (.gridNotFound manifest.definition)
  | some path =>
      match files path with
      | none => throw (.unreadable path)
      | some grid => loader.compile manifest grid overrides listeners

end Loader

/-- The manifest in a file. -/
def Manifest.ofFile (files : Files) (path : String) : Except LoadError Manifest :=
  match files.text? path with
  | none => .error (.unreadable path)
  | some text => (Manifest.parse text.toList).mapError .manifest

end GridMachine
