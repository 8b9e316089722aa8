import GridMachine.Machine.Trigger
import GridMachine.Proofs.Meaning

/-!
Runs of compiled machines. Whatever its components do and wherever they fail, an entity that starts
in a state with a row stays in such states, if only its actions leave the state to the machine. Each
event either leaves the entity where it is or takes it along one transition out of that state.
-/

namespace GridMachine

variable {π ω E : Type}

/-! ### Where a failure comes from -/

theorem Action.actionFailed_of_runAll {actions : List (Action ω E)} {scene after : Scene ω E}
    {error : MachineError} (h : runAll actions scene = (.error error, after)) :
    ∃ action cause, error = .actionFailed action cause := by
  induction actions generalizing scene with
  | nil => cases h
  | cons action actions ih =>
      unfold runAll at h
      cases hexecute : action.execute scene with
      | mk result middle =>
          rw [hexecute] at h
          cases result with
          | ok _ => exact ih h
          | error cause =>
              cases h
              exact ⟨action.name, cause, rfl⟩

theorem Listener.listenerFailed_of_notifyAll {transition : Transition ω E} {context : Context E}
    {listeners : List (Listener ω E)} {world after : ω} {error : MachineError}
    (h : notifyAll transition context listeners world = (.error error, after)) :
    ∃ cause, error = .listenerFailed cause := by
  induction listeners generalizing world with
  | nil => cases h
  | cons listener listeners ih =>
      unfold notifyAll at h
      cases hnotify : listener.notify transition context world with
      | mk result middle =>
          rw [hnotify] at h
          cases result with
          | ok _ => exact ih h
          | error cause =>
              cases h
              exact ⟨cause, rfl⟩

theorem Candidate.exists_of_firstPassing {context : Context E} {candidates : List (Candidate ω E)}
    {world : ω} {transition : Transition ω E}
    (h : (firstPassing context candidates world).1 = some transition) :
    ∃ candidate ∈ candidates, candidate.transition = transition := by
  induction candidates generalizing world with
  | nil => cases h
  | cons candidate candidates ih =>
      unfold firstPassing at h
      cases hpasses : candidate.passes context world with
      | mk passed middle =>
          rw [hpasses] at h
          cases passed with
          | true => exact ⟨candidate, List.mem_cons_self, Option.some.inj h⟩
          | false =>
              obtain ⟨found, hmem, htransition⟩ := ih h
              exact ⟨found, List.mem_cons_of_mem candidate hmem, htransition⟩

variable [Stateful E]

/-- Whether the action leaves the state of the entity alone, however it ends. -/
def Action.KeepsState (action : Action ω E) : Prop :=
  ∀ scene, (action.execute scene).2.context.state = scene.context.state

/-- Every transition leads to a fixed state, which is one of the states. -/
def Definition.ClosedIn (definition : Definition ω E) (states : List String) : Prop :=
  ∀ transition ∈ definition.matrix.transitions,
    ∃ state, transition.target = .fixed state ∧ state.name ∈ states

/-- How the handling of an event may end, and the state in which it then leaves the entity. -/
inductive Definition.Ends (definition : Definition ω E) (before after : Scene ω E) :
    Definition.Outcome ω E → Prop where
  | idle (same : after.context.state = before.context.state) :
      Ends definition before after (.ok none)
  | failed (action cause : String) (same : after.context.state = before.context.state) :
      Ends definition before after (.error (.actionFailed action cause))
  /-- The transition that was found has moved the entity, even if something failed afterwards. -/
  | moved (transition : Transition ω E) (outcome : Definition.Outcome ω E)
      (found : (definition.resolve before.context before.world).1 = some transition)
      (told : outcome = .ok (some transition) ∨
        (∃ cause, outcome = .error (.listenerFailed cause)) ∨
          ∃ id cause, outcome = .error (.persistFailed id cause))
      (target : transition.target = .fixed after.context.state)
      (reported : after.context.state ∈ definition.targetsFrom before.context.state) :
      Ends definition before after outcome

/-! ### One transition -/

theorem Action.state_runAll {actions : List (Action ω E)}
    (hactions : ∀ action ∈ actions, action.KeepsState) (scene : Scene ω E) :
    (runAll actions scene).2.context.state = scene.context.state := by
  induction actions generalizing scene with
  | nil => rfl
  | cons action actions ih =>
      obtain ⟨haction, hrest⟩ := List.forall_mem_cons.1 hactions
      have hkept := haction scene
      unfold runAll
      cases hexecute : action.execute scene with
      | mk result middle =>
          rw [hexecute] at hkept
          cases result with
          | error cause => exact hkept
          | ok _ => exact (ih hrest middle).trans hkept

variable (hstate : ∀ (state : State) (entity : E),
  Stateful.state (Stateful.setState state entity) = state)

include hstate in
/-- A transition that fails in its actions leaves the state; any other ends in its target. -/
theorem Transition.perform_cases {transition : Transition ω E} {target : State}
    (hactions : ∀ action ∈ transition.actions, action.KeepsState)
    (htarget : transition.target = .fixed target) {listeners : List (Listener ω E)}
    {scene after : Scene ω E} {result : Except MachineError Unit}
    (h : transition.perform listeners scene = (result, after)) :
    (∃ action cause, result = .error (.actionFailed action cause)) ∧
        after.context.state = scene.context.state ∨
      (result = .ok () ∨ ∃ cause, result = .error (.listenerFailed cause)) ∧
        after.context.state = target := by
  have hkept := Action.state_runAll hactions scene
  unfold perform at h
  cases hrun : Action.runAll transition.actions scene with
  | mk ran middle =>
      rw [hrun] at h hkept
      cases ran with
      | error error =>
          obtain ⟨action, cause, rfl⟩ := Action.actionFailed_of_runAll hrun
          cases h
          exact .inl ⟨⟨action, cause, rfl⟩, hkept⟩
      | ok _ =>
          simp only [htarget, Target.resolve] at h
          cases hnotify : Listener.notifyAll transition (middle.context.withState target) listeners
              middle.world with
          | mk told world =>
              rw [hnotify] at h
              cases h
              refine .inr ⟨?_, hstate target middle.context.entity⟩
              cases told with
              | ok _ => exact .inl rfl
              | error error =>
                  obtain ⟨cause, rfl⟩ := Listener.listenerFailed_of_notifyAll hnotify
                  exact .inr ⟨cause, rfl⟩

/-! ### One event -/

namespace Definition

variable {definition : Definition ω E}

theorem exists_candidate_of_resolve {context : Context E} {world : ω}
    {transition : Transition ω E} (h : (definition.resolve context world).1 = some transition) :
    ∃ candidate ∈ definition.candidates context.state context.event,
      candidate.transition = transition :=
  Candidate.exists_of_firstPassing h

theorem mem_transitions_of_resolve {context : Context E} {world : ω}
    {transition : Transition ω E} (h : (definition.resolve context world).1 = some transition) :
    transition ∈ definition.matrix.transitions :=
  Matrix.mem_transitions.2 ⟨_, _, exists_candidate_of_resolve h⟩

theorem target_mem_targetsFrom {context : Context E} {world : ω} {transition : Transition ω E}
    {target : State} (h : (definition.resolve context world).1 = some transition)
    (htarget : transition.target = .fixed target) :
    target ∈ definition.targetsFrom context.state := by
  obtain ⟨candidate, hmem, rfl⟩ := exists_candidate_of_resolve h
  rw [mem_targetsFrom]
  refine ⟨context.event, candidate, hmem, ?_⟩
  rw [htarget]
  rfl

/-- No event takes an entity out of the states in which a machine is closed. -/
theorem Ends.mem_states {before after : Scene ω E} {outcome : Definition.Outcome ω E}
    {states : List String} (h : definition.Ends before after outcome)
    (hclosed : definition.ClosedIn states) (hbefore : before.context.state.name ∈ states) :
    after.context.state.name ∈ states := by
  cases h with
  | idle same =>
      rw [same]
      exact hbefore
  | failed action cause same =>
      rw [same]
      exact hbefore
  | moved transition _ found told target reported =>
      obtain ⟨state, htarget, hmem⟩ := hclosed transition (mem_transitions_of_resolve found)
      rw [target] at htarget
      cases htarget
      exact hmem

variable {states : List String} (hclosed : definition.ClosedIn states)
  (hactions : ∀ transition ∈ definition.matrix.transitions,
    ∀ action ∈ transition.actions, action.KeepsState)

include hstate hclosed hactions

theorem ends_carryOut {persister : Persister ω E} {scene : Scene ω E} {world : ω}
    {transition : Transition ω E}
    (hfound : (definition.resolve scene.context scene.world).1 = some transition) :
    definition.Ends scene (definition.carryOut persister transition { scene with world }).2
      (definition.carryOut persister transition { scene with world }).1 := by
  have hmem := mem_transitions_of_resolve hfound
  obtain ⟨target, htarget, -⟩ := hclosed transition hmem
  have hreported := target_mem_targetsFrom hfound htarget
  unfold carryOut
  cases hperform : transition.perform definition.listeners { scene with world } with
  | mk result after =>
      have hcases := transition.perform_cases hstate (hactions transition hmem) htarget hperform
      -- the state is set between the actions and the listeners, so only an action can fail before
      rcases hcases with ⟨⟨action, cause, rfl⟩, hsame⟩ | ⟨rfl | ⟨cause, rfl⟩, rfl⟩
      · exact .failed action cause hsame
      · cases hpersist : persister.persist after.context after.world with
        | mk saved world =>
            simp only [hpersist]
            cases saved with
            | ok _ => exact .moved transition _ hfound (.inl rfl) htarget hreported
            | error cause =>
                exact .moved transition _ hfound (.inr (.inr ⟨_, cause, rfl⟩)) htarget hreported
      · exact .moved transition _ hfound (.inr (.inl ⟨cause, rfl⟩)) htarget hreported

/-- **How the handling of an event ends.** -/
theorem ends_trigger (persister : Persister ω E) (scene : Scene ω E) :
    definition.Ends scene (definition.trigger persister scene).2
      (definition.trigger persister scene).1 := by
  unfold trigger
  cases hresolve : definition.resolve scene.context scene.world with
  | mk found world =>
      cases found with
      | none => exact .idle rfl
      | some transition =>
          exact ends_carryOut hstate hclosed hactions (congrArg Prod.fst hresolve)

end Definition

/-! ### Runs -/

/-- An event for an entity, with who saves the entity afterwards. -/
structure Call (ω E : Type) where
  event : Event
  params : Option Params := none
  persister : Persister ω E := .idle

/-- One call of a run: the scene it found, what became of it and the scene it left. -/
structure Turn (ω E : Type) where
  before : Scene ω E
  outcome : Definition.Outcome ω E
  after : Scene ω E

namespace Definition

/-- The turns of a run, each on the entity and the world that the one before it left. -/
def turns (definition : Definition ω E) : List (Call ω E) → E → ω → List (Turn ω E)
  | [], _, _ => []
  | call :: calls, entity, world =>
      let before : Scene ω E := ⟨⟨call.event, entity, call.params⟩, world⟩
      let (outcome, after) := definition.trigger call.persister before
      ⟨before, outcome, after⟩ :: definition.turns calls after.context.entity after.world

include hstate in
theorem confined_turns {definition : Definition ω E} {states : List String}
    (hclosed : definition.ClosedIn states)
    (hactions : ∀ transition ∈ definition.matrix.transitions,
      ∀ action ∈ transition.actions, action.KeepsState)
    (calls : List (Call ω E)) (entity : E) (world : ω)
    (hentity : (Stateful.state entity).name ∈ states) :
    ∀ turn ∈ definition.turns calls entity world,
      turn.after.context.state.name ∈ states ∧
        definition.Ends turn.before turn.after turn.outcome := by
  induction calls generalizing entity world with
  | nil => simp [turns]
  | cons call calls ih =>
      have hends := ends_trigger hstate hclosed hactions call.persister
        ⟨⟨call.event, entity, call.params⟩, world⟩
      have hmem := hends.mem_states hclosed hentity
      rw [turns, List.forall_mem_cons]
      exact ⟨⟨hmem, hends⟩, ih _ _ hmem⟩

end Definition

variable {loader : Loader π ω E} {manifest : Manifest} {text : List UInt8}
  {overrides : List (ActionOverride ω E)} {world world' : ω} {grid : Grid} {events : List Event}
  {rules : List (Rule ω E)} {listeners : List (Listener ω E)}

omit [Stateful E] in
theorem Loader.Prepares.closedIn_states
    (h : loader.Prepares manifest text overrides world grid events rules world') :
    (Definition.unchecked rules manifest.defaultPath listeners).ClosedIn grid.states := by
  intro transition htransition
  obtain ⟨rule, hrule, rfl⟩ := Matrix.mem_transitions_ofRules.1 htransition
  obtain ⟨site, -, cellTransition, hrealises⟩ := h.exists_realises hrule
  have hmem := h.target_mem_states hrule
  rw [hrealises.target] at hmem
  exact ⟨⟨cellTransition.target⟩, hrealises.target, hmem⟩

include hstate in
/-- **No run of a compiled machine leaves its states.** -/
theorem Loader.confined_of_compile {definition : Definition ω E}
    (h : (loader.compile manifest text overrides listeners).outcome world =
      (.ok definition, world'))
    (hactions : ∀ transition ∈ definition.matrix.transitions,
      ∀ action ∈ transition.actions, action.KeepsState) :
    ∃ delimiter grid, loader.config.delimiterByte = .ok delimiter ∧
      Grid.read delimiter text = .ok grid ∧
        ∀ (calls : List (Call ω E)) (entity : E) (start : ω),
          (Stateful.state entity).name ∈ grid.states →
            ∀ turn ∈ definition.turns calls entity start,
              turn.after.context.state.name ∈ grid.states ∧
                definition.Ends turn.before turn.after turn.outcome := by
  obtain ⟨grid, events, rules, hprepares, hrules⟩ := outcome_compile_eq_ok_iff.1 h
  obtain ⟨delimiter, hdelimiter, hread⟩ := hprepares.read
  obtain ⟨-, rfl⟩ := Definition.ofRules_eq_ok_iff.1 hrules
  refine ⟨delimiter, grid, hdelimiter, hread, ?_⟩
  intro calls entity start hentity
  exact Definition.confined_turns hstate hprepares.closedIn_states hactions calls entity start
    hentity

/-- A draft is submitted, withdrawn in vain, and decided upon while it cannot be saved. -/
def draftCalls : List (Call Unit Cli.DryRun) :=
  [ { event := .unrestricted "Submit" },
    { event := .unrestricted "Withdraw" },
    { event := .unrestricted "Decide", persister := ⟨fun _ world => (.error "disk full", world)⟩ } ]

theorem confined_draft :
    ∃ definition, (draftLoader.compile draftManifest draftText draftOverrides []).outcome () =
        (.ok definition, ()) ∧
      (∀ turn ∈ definition.turns draftCalls ⟨⟨"Draft"⟩⟩ (),
        turn.after.context.state.name ∈ draftGrid.states ∧
          definition.Ends turn.before turn.after turn.outcome) ∧
      (definition.turns draftCalls ⟨⟨"Draft"⟩⟩ ()).map (·.after.context.state.name) =
        ["Review", "Review", "Draft"] := by
  have hactions : ∀ transition ∈ (Matrix.ofRules draftRules).transitions,
      ∀ action ∈ transition.actions, action.KeepsState := by
    intro transition htransition action haction scene
    obtain ⟨rule, hrule, rfl⟩ := Matrix.mem_transitions_ofRules.1 htransition
    have hidle : ∀ rule ∈ draftRules, ∀ action ∈ rule.effectiveActions,
        ∃ name, action = .idle name := by
      simp [draftRules, Rule.effectiveActions]
    obtain ⟨name, rfl⟩ := hidle rule hrule action haction
    rfl
  refine ⟨_, outcome_compile_draft, ?_, rfl⟩
  obtain ⟨delimiter, grid, hdelimiter, hread, hconfined⟩ :=
    Loader.confined_of_compile (fun _ _ => rfl) outcome_compile_draft hactions
  cases hdelimiter
  have hgrid : grid = draftGrid := (Except.ok.inj hread).symm
  rw [← hgrid]
  refine hconfined draftCalls ⟨⟨"Draft"⟩⟩ () ?_
  rw [hgrid]
  decide

end GridMachine
