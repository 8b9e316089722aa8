import GridMachine.Machine.Definition
import GridMachine.Machine.Locks

/-!
Events that happen to entities. The transition of the event is found and performed, and then the
entity is handed to the persister; where no transition is found nothing happens. The same can be
done while holding the lock of the entity.
-/

namespace GridMachine.Definition

variable {ω E : Type} [Stateful E]

/-- What became of an event: the transition that was taken, if any, or a failure. -/
abbrev Outcome (ω E : Type) := Except MachineError (Option (Transition ω E))

/-- Performs a transition and hands the entity to the persister. -/
def carryOut (definition : Definition ω E) (persister : Persister ω E)
    (transition : Transition ω E) (scene : Scene ω E) : Outcome ω E × Scene ω E :=
  match transition.perform definition.listeners scene with
  | (.error error, scene) => (.error error, scene)
  | (.ok (), scene) =>
      match persister.persist scene.context scene.world with
      | (.error cause, world) =>
          (.error (.persistFailed (Stateful.id scene.context.entity) cause), { scene with world })
      | (.ok (), world) => (.ok (some transition), { scene with world })

/-- Handles the event of the scene. -/
def trigger (definition : Definition ω E) (persister : Persister ω E) (scene : Scene ω E) :
    Outcome ω E × Scene ω E :=
  match definition.resolve scene.context scene.world with
  | (none, world) => (.ok none, { scene with world })
  | (some transition, world) =>
      definition.carryOut persister transition { scene with world }

/-- Handles the event of the scene while holding the lock of the entity. The entry of the lock is
released afterwards, unless another caller has a handle to it. -/
def triggerLocked (definition : Definition ω E) (persister : Persister ω E) (table : LockTable)
    (scene : Scene ω E) : Outcome ω E × Scene ω E × LockTable :=
  let id := Stateful.id scene.context.entity
  let (lock, table) := table.acquire id
  let (outcome, scene) := definition.trigger persister scene
  let (_, table) := (table.drop lock).release id
  (outcome, scene, table)

end GridMachine.Definition
