import GridMachine.Machine.Context
import GridMachine.Machine.Error

/-!
Transitions and the components that run with them. Components act on a world `ω` beside the entity:
each takes the world as it finds it and leaves it as it makes it, so that what ran, and in which
order, can be told from the world at the end. A transition runs its actions, moves the entity and
tells the listeners; the first failure ends it, and nothing that was done is undone.
-/

namespace GridMachine

/-- A named guard of a transition. -/
structure Evaluator (ω E : Type) where
  description : String
  evaluate : Context E → ω → Bool × ω

/-- What a transition works on, and the world around it. -/
structure Scene (ω E : Type) where
  context : Context E
  world : ω

/-- A named step of a transition, which may change the entity and the parameters. -/
structure Action (ω E : Type) where
  name : String
  description : Option String := none
  execute : Scene ω E → Except String Unit × Scene ω E

/-- An action that has a name and does nothing. -/
def Action.idle {ω E : Type} (name : String) : Action ω E where
  name
  execute scene := (.ok (), scene)

/-- Where a transition leads. -/
inductive Target (ω E : Type) where
  | fixed (state : State)
  /-- A state found when the transition is performed; `declared` is the one that is reported. -/
  | dynamic (declared : State) (find : Context E → ω → State × ω)

namespace Target

variable {ω E : Type}

/-- The state that is reported and checked. -/
def declared : Target ω E → State
  | fixed state => state
  | dynamic declared _ => declared

def isDynamic : Target ω E → Bool
  | fixed _ => false
  | dynamic _ _ => true

/-- The state to which an entity moves. -/
def resolve (target : Target ω E) (context : Context E) (world : ω) : State × ω :=
  match target with
  | fixed state => (state, world)
  | dynamic _ find => find context world

end Target

/-- An edge of a machine with the actions that run when it is taken. -/
structure Transition (ω E : Type) where
  source : State
  target : Target ω E
  actions : List (Action ω E)

/-- An observer of the transitions that entities have made. -/
structure Listener (ω E : Type) where
  notify : Transition ω E → Context E → ω → Except String Unit × ω

/-- What saves an entity after a transition. -/
structure Persister (ω E : Type) where
  persist : Context E → ω → Except String Unit × ω

/-- For entities that are saved elsewhere, or not at all. -/
def Persister.idle {ω E : Type} : Persister ω E where
  persist _ world := (.ok (), world)

variable {ω E : Type}

/-- The actions in order, up to the first that fails. -/
def Action.runAll : List (Action ω E) → Scene ω E → Except MachineError Unit × Scene ω E
  | [], scene => (.ok (), scene)
  | action :: actions, scene =>
      match action.execute scene with
      | (.ok (), scene) => runAll actions scene
      | (.error cause, scene) => (.error (.actionFailed action.name cause), scene)

/-- The listeners in order, up to the first that fails. -/
def Listener.notifyAll (transition : Transition ω E) (context : Context E) :
    List (Listener ω E) → ω → Except MachineError Unit × ω
  | [], world => (.ok (), world)
  | listener :: listeners, world =>
      match listener.notify transition context world with
      | (.ok (), world) => notifyAll transition context listeners world
      | (.error cause, world) => (.error (.listenerFailed cause), world)

namespace Transition

variable [Stateful E]

/-- Runs the actions, moves the entity and tells the listeners. -/
def perform (transition : Transition ω E) (listeners : List (Listener ω E)) (scene : Scene ω E) :
    Except MachineError Unit × Scene ω E :=
  match Action.runAll transition.actions scene with
  | (.error error, scene) => (.error error, scene)
  | (.ok (), scene) =>
      let (state, world) := transition.target.resolve scene.context scene.world
      let context := scene.context.withState state
      let (outcome, world) := Listener.notifyAll transition context listeners world
      (outcome, ⟨context, world⟩)

end Transition

end GridMachine
