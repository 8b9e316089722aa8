import GridMachine.Loader.Error
import GridMachine.Loader.Registry
import GridMachine.Machine.Definition
import GridMachine.Manifest.Basic

/-!
What a manifest and its grid have to agree on. Before anything is built, every type that the
manifest names needs a factory; once the rules are there, all states that are mentioned need a row,
and no state and no event may be given twice.
-/

namespace GridMachine

/-- The texts that occur again, each once, in the order in which they first do; `seen` have occurred
before and `reported` have been found to occur again. -/
def repeatedIn (seen reported : List String) : List String → List String
  | [] => []
  | text :: texts =>
      if !seen.contains text then repeatedIn (text :: seen) reported texts
      else if reported.contains text then repeatedIn seen reported texts
      else text :: repeatedIn seen (text :: reported) texts

/-- The texts that occur more than once, each once, in the order in which they first occur again. -/
def repeated (texts : List String) : List String := repeatedIn [] [] texts

variable {π ω E : Type}

/-- Every type of a component in the manifest has a factory. -/
def checkTypes (registry : Registry π ω E) (manifest : Manifest) : Except LoadError Unit := do
  if let some (name, type) := manifest.evaluators.entries.find? (!registry.hasEvaluator ·.2) then
    throw (.unregistered .evaluator name type)
  if let some (name, type) := manifest.actions.entries.find? (!registry.hasAction ·.2) then
    throw (.unregistered .action name type)

/-- Every target of a rule is a state with a row. -/
def checkTargets (states : List String) (rules : List (Rule ω E)) : Except LoadError Unit :=
  match rules.find? fun rule => !states.contains rule.target.declared.name with
  | some rule => .error (.invalidTarget rule.target.declared.name)
  | none => .ok ()

/-- Every state of the default path is one with a row. -/
def checkDefaultPath (states : List String) (path : Option (List String)) :
    Except LoadError Unit :=
  match (path.getD []).find? (!states.contains ·) with
  | some state => .error (.invalidDefaultPath state)
  | none => .ok ()

/-- No state has two rows and no event has two columns. -/
def checkUnique (grid : Grid) : Except LoadError Unit := do
  let states := repeated grid.states
  let events := repeated (grid.events.map Header.eventName)
  unless states.isEmpty do throw (.duplicateStates states)
  unless events.isEmpty do throw (.duplicateEvents events)

/-- The rules are in keeping with the grid and the manifest. -/
def checkRules (manifest : Manifest) (grid : Grid) (rules : List (Rule ω E)) :
    Except LoadError Unit := do
  checkTargets grid.states rules
  checkDefaultPath grid.states manifest.defaultPath
  checkUnique grid

end GridMachine
