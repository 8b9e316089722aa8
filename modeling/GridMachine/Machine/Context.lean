import GridMachine.Json.Basic
import GridMachine.Machine.Event
import GridMachine.Machine.State
import GridMachine.NameMap

/-!
What a transition works on: one event, the entity it happens to, and the parameters that the caller
supplied, if any.
-/

namespace GridMachine

/-- Entities whose state a machine manages; all else about them is their own affair. -/
class Stateful (E : Type) where
  state : E → State
  setState : State → E → E
  /-- The name under which the entity is locked and reported. -/
  id : E → String

/-- Parameters by name. -/
abbrev Params := NameMap Json

/-- Everything about one event for one entity. -/
structure Context (E : Type) where
  event : Event
  entity : E
  params : Option Params := none

namespace Context

variable {E : Type}

def withParams (context : Context E) (params : Params) : Context E :=
  { context with params := some params }

/-- The context with its parameters changed, which are none at all if there were none. -/
def mapParams (context : Context E) (f : Params → Params) : Context E :=
  { context with params := some (f (context.params.getD .empty)) }

/-- The context with one parameter set. -/
def withParam (context : Context E) (name : String) (value : Json) : Context E :=
  context.mapParams (·.insert name value)

/-- The value of a parameter. -/
def param? (context : Context E) (name : String) : Option Json :=
  context.params.bind (·.get? name)

variable [Stateful E]

/-- The state of the entity. -/
def state (context : Context E) : State := Stateful.state context.entity

/-- The context with the entity in another state. -/
def withState (context : Context E) (state : State) : Context E :=
  { context with entity := Stateful.setState state context.entity }

end Context

end GridMachine
