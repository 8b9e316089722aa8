import GridMachine.Cli.Session
import GridMachine.Machine.Trigger
import GridMachine.Proofs.Course

/-!
The effects of one event. Once a transition has been found, the event has a fixed list of effects:
the actions, the move of the entity, the listeners and the persister. What happens is the course of
these effects, so that a failure leaves behind exactly the effects up to the one that failed.
-/

namespace GridMachine

variable {ω E : Type}

/-- One thing that is done for an event whose transition has been found. -/
inductive Effect (ω E : Type) where
  | act (action : Action ω E)
  | move (target : Target ω E)
  | tell (transition : Transition ω E) (listener : Listener ω E)
  | save (persister : Persister ω E)

/-- The effects of a transition itself, in their order. -/
def Transition.effects (transition : Transition ω E) (listeners : List (Listener ω E)) :
    List (Effect ω E) :=
  transition.actions.map .act ++ .move transition.target :: listeners.map (.tell transition)

/-- The effects of an event whose transition has been found, in their order. -/
def Definition.effects (definition : Definition ω E) (persister : Persister ω E)
    (transition : Transition ω E) : List (Effect ω E) :=
  transition.effects definition.listeners ++ [.save persister]

section Run

variable [Stateful E]

/-- What an effect comes to, and the scene it leaves. Only an action may change the context beside
the state, and what a component has done before it fails stays done. -/
def Effect.run : Effect ω E → Scene ω E → Except MachineError Unit × Scene ω E
  | act action, scene =>
      let (outcome, scene) := action.execute scene
      (outcome.mapError (.actionFailed action.name), scene)
  | move target, scene =>
      let (state, world) := target.resolve scene.context scene.world
      (.ok (), ⟨scene.context.withState state, world⟩)
  | tell transition listener, scene =>
      let (outcome, world) := listener.notify transition scene.context scene.world
      (outcome.mapError .listenerFailed, ⟨scene.context, world⟩)
  | save persister, scene =>
      let (outcome, world) := persister.persist scene.context scene.world
      (outcome.mapError (.persistFailed (Stateful.id scene.context.entity)), ⟨scene.context, world⟩)

def Effect.Runs (effect : Effect ω E) (before : Scene ω E) (result : Except MachineError Unit)
    (after : Scene ω E) : Prop :=
  effect.run before = (result, after)

/-- How an event is handled: the effects that have run, the outcome and the scene that is left. -/
inductive Definition.Handles (definition : Definition ω E) (persister : Persister ω E)
    (before : Scene ω E) : List (Effect ω E) → Definition.Outcome ω E → Scene ω E → Prop where
  /-- No transition is found: nothing runs, and the entity and the parameters stay. -/
  | idle {world : ω}
      (unresolved : definition.resolve before.context before.world = (none, world)) :
      Handles definition persister before [] (.ok none) ⟨before.context, world⟩
  /-- The effects before one that fails have run and it has failed; later ones have not run. -/
  | failed {transition : Transition ω E} {world : ω} {ran later : List (Effect ω E)}
      {effect : Effect ω E} {middle after : Scene ω E} {error : MachineError}
      (resolved : definition.resolve before.context before.world = (some transition, world))
      (split : definition.effects persister transition = ran ++ effect :: later)
      (passed : Course Effect.Runs ran ⟨before.context, world⟩ (.ok ()) middle)
      (failure : effect.run middle = (.error error, after)) :
      Handles definition persister before (ran ++ [effect]) (.error error) after
  /-- All effects have run. -/
  | done {transition : Transition ω E} {world : ω} {after : Scene ω E}
      (resolved : definition.resolve before.context before.world = (some transition, world))
      (passed : Course Effect.Runs (definition.effects persister transition)
        ⟨before.context, world⟩ (.ok ()) after) :
      Handles definition persister before (definition.effects persister transition)
        (.ok (some transition)) after

variable {effect : Effect ω E} {effects : List (Effect ω E)} {result : Except MachineError Unit}
  {before middle after : Scene ω E}

/-! ### Courses of effects -/

theorem Effect.course_cons_of_passed (h : effect.run before = (.ok (), middle)) :
    Course Runs (effect :: effects) before result after ↔
      Course Runs effects middle result after := by
  apply Course.cons_iff_of_passed
  simp [Runs, h, eq_comm]

theorem Effect.course_cons_of_failed {error : MachineError}
    (h : effect.run before = (.error error, middle)) :
    Course Runs (effect :: effects) before result after ↔
      result = .error error ∧ after = middle := by
  apply Course.cons_iff_of_failed
  simp [Runs, h, eq_comm]

theorem Action.runAll_eq_iff {actions : List (Action ω E)} :
    runAll actions before = (result, after) ↔
      Course Effect.Runs (actions.map .act) before result after := by
  induction actions generalizing before with
  | nil => simp [runAll, Course.nil_iff, eq_comm]
  | cons action actions ih =>
      rw [List.map_cons]
      unfold runAll
      cases hexecute : action.execute before with
      | mk outcome middle =>
          cases outcome with
          | ok _ =>
              have hrun : (Effect.act action).run before = (.ok (), middle) := by
                simp [Effect.run, hexecute, Except.mapError]
              rw [Effect.course_cons_of_passed hrun]
              exact ih
          | error cause =>
              have hrun : (Effect.act action).run before =
                  (.error (.actionFailed action.name cause), middle) := by
                simp [Effect.run, hexecute, Except.mapError]
              rw [Effect.course_cons_of_failed hrun]
              simp [eq_comm]

/-- Listeners leave the context alone, so that each is told of the same. -/
theorem Listener.course_tell_iff {transition : Transition ω E} {context : Context E}
    {listeners : List (Listener ω E)} {world : ω} :
    Course Effect.Runs (listeners.map (.tell transition)) ⟨context, world⟩ result after ↔
      ∃ world', notifyAll transition context listeners world = (result, world') ∧
        ⟨context, world'⟩ = after := by
  induction listeners generalizing world with
  | nil => simp [notifyAll, Course.nil_iff, eq_comm]
  | cons listener listeners ih =>
      rw [List.map_cons]
      unfold notifyAll
      cases hnotify : listener.notify transition context world with
      | mk outcome middle =>
          cases outcome with
          | ok _ =>
              have hrun : (Effect.tell transition listener).run ⟨context, world⟩ =
                  (.ok (), ⟨context, middle⟩) := by
                simp [Effect.run, hnotify, Except.mapError]
              rw [Effect.course_cons_of_passed hrun]
              exact ih
          | error cause =>
              have hrun : (Effect.tell transition listener).run ⟨context, world⟩ =
                  (.error (.listenerFailed cause), ⟨context, middle⟩) := by
                simp [Effect.run, hnotify, Except.mapError]
              rw [Effect.course_cons_of_failed hrun]
              simp [eq_comm]

/-- A transition is performed as the course of its effects. -/
theorem Transition.perform_eq_iff {transition : Transition ω E} {listeners : List (Listener ω E)} :
    transition.perform listeners before = (result, after) ↔
      Course Effect.Runs (transition.effects listeners) before result after := by
  unfold perform effects
  rw [Course.append_iff]
  simp only [← Action.runAll_eq_iff]
  cases Action.runAll transition.actions before with
  | mk outcome middle =>
      cases outcome with
      | error error => simp [eq_comm]
      | ok _ =>
          have hmove : (Effect.move transition.target).run middle =
            (.ok (), ⟨middle.context.withState
              (transition.target.resolve middle.context middle.world).1,
              (transition.target.resolve middle.context middle.world).2⟩) := rfl
          simp [Effect.course_cons_of_passed hmove, Listener.course_tell_iff, Prod.ext_iff]

namespace Definition

variable {definition : Definition ω E} {persister : Persister ω E} {transition : Transition ω E}

/-- What a transition and the persister after it come to is the course of their effects. -/
theorem carryOut_eq_iff {outcome : Definition.Outcome ω E} :
    definition.carryOut persister transition before = (outcome, after) ↔
      ∃ result, Course Effect.Runs (definition.effects persister transition) before result after ∧
        result.map (fun _ => some transition) = outcome := by
  unfold carryOut effects
  simp only [Course.append_iff, ← Transition.perform_eq_iff]
  cases transition.perform definition.listeners before with
  | mk performed middle =>
      cases performed with
      | error error => simp [Except.map, and_comm]
      | ok _ =>
          cases hpersist : persister.persist middle.context middle.world with
          | mk saved world =>
              cases saved with
              | ok _ =>
                  have hrun : (Effect.save persister).run middle =
                      (.ok (), ⟨middle.context, world⟩) := by
                    simp [Effect.run, hpersist, Except.mapError]
                  simp [hpersist, Effect.course_cons_of_passed hrun, Course.nil_iff, Except.map,
                    and_comm]
              | error cause =>
                  have hrun : (Effect.save persister).run middle =
                      (.error (.persistFailed (Stateful.id middle.context.entity) cause),
                        ⟨middle.context, world⟩) := by
                    simp [Effect.run, hpersist, Except.mapError]
                  simp [hpersist, Effect.course_cons_of_failed hrun, Except.map, and_comm, eq_comm]

theorem handles_of_trigger {outcome : Definition.Outcome ω E}
    (h : definition.trigger persister before = (outcome, after)) :
    ∃ ran, definition.Handles persister before ran outcome after := by
  unfold trigger at h
  cases hresolve : definition.resolve before.context before.world with
  | mk found world =>
      rw [hresolve] at h
      cases found with
      | none =>
          cases h
          exact ⟨[], .idle hresolve⟩
      | some transition =>
          obtain ⟨result, hcourse, rfl⟩ := carryOut_eq_iff.1 h
          cases result with
          | ok _ => exact ⟨_, .done hresolve hcourse⟩
          | error error =>
              obtain ⟨ran, effect, later, middle, split, passed, failure⟩ :=
                Course.error_iff.1 hcourse
              exact ⟨_, .failed hresolve split passed failure⟩

theorem trigger_of_handles {ran : List (Effect ω E)} {outcome : Definition.Outcome ω E}
    (h : definition.Handles persister before ran outcome after) :
    definition.trigger persister before = (outcome, after) := by
  unfold trigger
  cases h with
  | idle unresolved => rw [unresolved]
  | @failed _ _ ran later effect middle _ error resolved split passed failure =>
      rw [resolved]
      have hcourse := Course.error_iff.2 ⟨ran, effect, later, middle, split, passed, failure⟩
      exact carryOut_eq_iff.2 ⟨.error error, hcourse, rfl⟩
  | done resolved passed =>
      rw [resolved]
      exact carryOut_eq_iff.2 ⟨.ok (), passed, rfl⟩

/-- Whoever is told after the move finds the context that the actions left, in the new state. -/
theorem context_of_course_move {listeners : List (Listener ω E)} {acted seen : Scene ω E}
    (h : Course Effect.Runs (.move transition.target :: listeners.map (.tell transition)) acted
      result seen) :
    seen.context =
      acted.context.withState (transition.target.resolve acted.context acted.world).1 := by
  have hmove : (Effect.move transition.target).run acted =
    (.ok (), ⟨acted.context.withState (transition.target.resolve acted.context acted.world).1,
      (transition.target.resolve acted.context acted.world).2⟩) := rfl
  rw [Effect.course_cons_of_passed hmove, Listener.course_tell_iff] at h
  obtain ⟨world, -, rfl⟩ := h
  rfl

/-- **What an event does, and where it stops.** Handling an event is running the effects of its
transition up to the first that fails. Between the move and the end of the event every listener,
and the persister, finds the context that the actions left, in the state that was found for it. -/
theorem trigger_runs_effects (definition : Definition ω E) (persister : Persister ω E) :
    (∀ before outcome after, definition.trigger persister before = (outcome, after) ↔
      ∃ ran, definition.Handles persister before ran outcome after) ∧
    ∀ (transition : Transition ω E) (told : List (Listener ω E)) (acted seen : Scene ω E),
      Course Effect.Runs (.move transition.target :: told.map (.tell transition)) acted (.ok ())
        seen →
      seen.context =
          acted.context.withState (transition.target.resolve acted.context acted.world).1 ∧
        ((∀ (state : State) (entity : E), Stateful.state (Stateful.setState state entity) = state) →
          seen.context.state = (transition.target.resolve acted.context acted.world).1) := by
  constructor
  · intro before outcome after
    constructor
    · exact handles_of_trigger
    · rintro ⟨ran, h⟩
      exact trigger_of_handles h
  · intro transition told acted seen h
    have hcontext := context_of_course_move h
    refine ⟨hcontext, fun hstate => ?_⟩
    rw [hcontext]
    exact hstate _ _

end Definition

end Run

/-! ### A ticket -/

/-- An action that writes down its name and marks the ticket as urgent. -/
def Action.marking (name : String) : Action (List String) Cli.DryRun where
  name
  execute scene :=
    (.ok (), ⟨scene.context.withParam "urgent" (.bool true), scene.world ++ [name]⟩)

/-- Urgent tickets are escalated; that the target is looked for is written down. -/
def Target.byUrgency : Target (List String) Cli.DryRun :=
  .dynamic ⟨"Active"⟩ fun context journal =>
    (if (context.param? "urgent").isSome then ⟨"Escalated"⟩ else ⟨"Active"⟩, journal ++ ["find"])

/-- A listener that writes down its name and the state it sees. -/
def Listener.recording (name : String) (outcome : Except String Unit) :
    Listener (List String) Cli.DryRun where
  notify _ context journal := (outcome, journal ++ [name ++ " sees " ++ context.state.name])

def Persister.recording : Persister (List String) Cli.DryRun where
  persist _ journal := (.ok (), journal ++ ["save"])

def ticketTransition : Transition (List String) Cli.DryRun :=
  ⟨⟨"New"⟩, .byUrgency, [.marking "mark"]⟩

/-- Of three listeners the second fails. -/
def ticketDefinition : Definition (List String) Cli.DryRun where
  matrix := .ofRules
    [{ event := .unrestricted "Open", source := ⟨"New"⟩, target := .byUrgency
       actions := [.marking "mark"] }]
  paths := .empty
  listeners :=
    [.recording "desk" (.ok ()), .recording "pager" (.error "busy"), .recording "log" (.ok ())]

def openTicket : Scene (List String) Cli.DryRun := ⟨⟨.unrestricted "Open", ⟨⟨"New"⟩⟩, none⟩, []⟩

/-- The mark of the action decides the target, both listeners see the state it leads to, and neither
the third listener nor the persister is called. -/
theorem trigger_ticket :
    (ticketDefinition.trigger .recording openTicket).2.world =
        ["mark", "find", "desk sees Escalated", "pager sees Escalated"] ∧
      (∃ ran, ticketDefinition.Handles .recording openTicket ran
        (.error (.listenerFailed "busy"))
        (ticketDefinition.trigger .recording openTicket).2) ∧
      ∀ seen, Course Effect.Runs
          [.move ticketTransition.target, .tell ticketTransition (.recording "desk" (.ok ()))]
          ⟨openTicket.context.withParam "urgent" (.bool true), ["mark"]⟩ (.ok ()) seen →
        seen.context.state = ⟨"Escalated"⟩ := by
  obtain ⟨hhandles, hseen⟩ :=
    Definition.trigger_runs_effects ticketDefinition .recording
  refine ⟨rfl, (hhandles openTicket _ _).1 rfl, ?_⟩
  intro seen h
  obtain ⟨-, hstate⟩ := hseen ticketTransition [.recording "desk" (.ok ())] _ seen h
  exact hstate fun _ _ => rfl

end GridMachine
