import GridMachine.Cli.Answer
import GridMachine.Proofs.Confinement
import GridMachine.Proofs.StandIns

/-!
Events that are tried out. The machine of a session has nothing in it that acts, fails or finds its
targets by itself: its actions are idle and nobody listens. What an event comes to is therefore told
by the transition that is found for it, which ends in its target.
-/

namespace GridMachine

variable {ω E : Type}

/-- Whether a transition does nothing but lead to its target. -/
structure Transition.IsIdle (transition : Transition ω E) : Prop where
  target : ∃ state, transition.target = .fixed state
  actions : ∀ action ∈ transition.actions, ∃ name, action = .idle name

theorem Action.runAll_of_idle {actions : List (Action ω E)}
    (h : ∀ action ∈ actions, ∃ name, action = .idle name) (scene : Scene ω E) :
    runAll actions scene = (.ok (), scene) := by
  induction actions with
  | nil => rfl
  | cons action actions ih =>
      obtain ⟨⟨name, rfl⟩, hactions⟩ := List.forall_mem_cons.1 h
      exact ih hactions

section Stateful

variable [Stateful E]

theorem Transition.IsIdle.perform {transition : Transition ω E} (h : transition.IsIdle)
    (scene : Scene ω E) :
    transition.perform [] scene =
      (.ok (), ⟨scene.context.withState transition.target.declared, scene.world⟩) := by
  obtain ⟨state, htarget⟩ := h.target
  unfold Transition.perform
  rw [Action.runAll_of_idle h.actions, htarget]
  rfl

/-- Where nothing acts, an event only moves the entity, and only if a transition is found. -/
theorem Definition.trigger_of_idle {definition : Definition ω E}
    (hlisteners : definition.listeners = [])
    (h : ∀ transition ∈ definition.matrix.transitions, transition.IsIdle) (scene : Scene ω E) :
    definition.trigger .idle scene =
      match definition.resolve scene.context scene.world with
      | (none, world) => (.ok none, { scene with world })
      | (some transition, world) =>
          (.ok (some transition),
            ⟨scene.context.withState transition.target.declared, world⟩) := by
  unfold trigger
  cases hresolve : definition.resolve scene.context scene.world with
  | mk found world =>
      cases found with
      | none => rfl
      | some transition =>
          have hfound : (definition.resolve scene.context scene.world).1 = some transition := by
            rw [hresolve]
          have hidle := h transition (mem_transitions_of_resolve hfound)
          simp only [carryOut, hlisteners, hidle.perform]
          rfl

end Stateful

/-- The name under which the one action of a transition is reported. -/
def CellTransition.actionName (transition : CellTransition) (manifest : Manifest)
    (state event : String) : String :=
  match transition.action with
  | some action => (manifest.actions.get? action).getD action
  | none => state ++ "->" ++ event ++ "->" ++ transition.target ++ " action"

namespace Cli

variable {files : Files} {path : String} {config : Config} {passes : List String}
  {session : Session}

/-! ### What a session is made from -/

/-- Whether an evaluator stands in for the type that a name has. -/
def StandsInFor (manifest : Manifest) (passes : List String) (name : String)
    (evaluator : Evaluator Unit DryRun) : Prop :=
  ∃ type, manifest.evaluators.get? name = some type ∧
    evaluator = standInEvaluator type (passingTypes manifest passes)

/-- What the candidate of a transition in a cell is made of, where everything is a stand-in. -/
structure Tries (manifest : Manifest) (passes : List String) (state event : String)
    (transition : CellTransition) (candidate : Candidate Unit DryRun) : Prop where
  target : candidate.transition.target = .fixed ⟨transition.target⟩
  evaluator : Option.Rel (StandsInFor manifest passes) transition.evaluator candidate.evaluator
  actions : candidate.transition.actions = [.idle (transition.actionName manifest state event)]

variable {manifest : Manifest} {state event : String} {transition : CellTransition}
  {candidate : Candidate Unit DryRun}

theorem Tries.isIdle (h : Tries manifest passes state event transition candidate) :
    candidate.transition.IsIdle where
  target := ⟨_, h.target⟩
  actions action haction := by
    rw [h.actions, List.mem_singleton] at haction
    exact ⟨_, haction⟩

theorem standsInFor_of_built {name : String} {evaluator : Evaluator Unit DryRun}
    (h : Built manifest.evaluators (standIns manifest).evaluators (passingTypes manifest passes)
      name evaluator) : StandsInFor manifest passes name evaluator := by
  obtain ⟨type, factory, world, world', htype, hfactory, hcall⟩ := h
  rw [get?_evaluators_standIns (NameMap.mem_values.2 ⟨name, htype⟩)] at hfactory
  cases hfactory
  cases hcall
  exact ⟨type, htype, rfl⟩

theorem eq_idle_of_built {param : List String} {name : String} {action : Action Unit DryRun}
    (h : Built manifest.actions (standIns manifest).actions param name action) :
    action = .idle ((manifest.actions.get? name).getD name) := by
  obtain ⟨type, factory, world, world', htype, hfactory, hcall⟩ := h
  rw [get?_actions_standIns (NameMap.mem_values.2 ⟨name, htype⟩)] at hfactory
  cases hfactory
  cases hcall
  rw [htype]
  rfl

theorem tries_of_declares
    (h : (Session.loader manifest config passes).Declares manifest [] state event transition
      candidate) : Tries manifest passes state event transition candidate where
  target := h.target
  evaluator := by
    have hevaluator := h.evaluator
    generalize transition.evaluator = name at hevaluator ⊢
    generalize candidate.evaluator = evaluator at hevaluator ⊢
    cases hevaluator with
    | none => exact .none
    | some hbuilt => exact .some (standsInFor_of_built hbuilt)
  actions := by
    -- without overrides there is no extra action
    obtain ⟨own, extra, hown, rfl, hactions⟩ := h.actions
    rw [hactions, CellTransition.actionName]
    generalize transition.action = name at hown ⊢
    cases hown with
    | none => rfl
    | some hbuilt =>
        rw [eq_idle_of_built hbuilt]
        rfl

/-- The grid of a session: the one that is found for its manifest, with the events of its
columns. -/
def Session.Reads (session : Session) (files : Files) (config : Config) (grid : Grid)
    (events : List Event) : Prop :=
  ∃ place text delimiter, config.resolve? files session.manifest.definition = some place ∧
    files place = some text ∧ config.delimiterByte = .ok delimiter ∧
    Grid.read delimiter text = .ok grid ∧ grid.events.mapM Header.parse = .ok events

theorem Session.Reads.unique {grid other : Grid} {events others : List Event}
    (h : session.Reads files config grid events) (h' : session.Reads files config other others) :
    grid = other ∧ events = others := by
  obtain ⟨place, text, delimiter, hplace, htext, hdelimiter, hread, hevents⟩ := h
  obtain ⟨place', text', delimiter', hplace', htext', hdelimiter', hread', hevents'⟩ := h'
  cases hplace.symm.trans hplace'
  cases htext.symm.trans htext'
  cases hdelimiter.symm.trans hdelimiter'
  cases hread.symm.trans hread'
  exact ⟨rfl, Except.ok.inj (hevents.symm.trans hevents')⟩

/-- What the machine of a session was made from: the grid that was found, with the events of its
columns, and the rules of its cells. -/
structure Session.MadeFrom (session : Session) (files : Files) (config : Config)
    (passes : List String) (grid : Grid) (events : List Event) (rules : List (Rule Unit DryRun)) :
    Prop where
  found : ∃ place text, config.resolve? files session.manifest.definition = some place ∧
    files place = some text ∧
    (loader session.manifest config passes).Prepares session.manifest text [] () grid events rules
      ()
  definition : session.definition = .unchecked rules session.manifest.defaultPath []

theorem Session.exists_madeFrom (h : Session.load files path config passes = .ok session) :
    ∃ grid events rules, session.MadeFrom files config passes grid events rules := by
  obtain ⟨text, -, hmanifest, hload⟩ := load_eq_ok_iff.1 h
  obtain ⟨manifest, place, gridText, -, hmanifest', hplace, hgridText, hcompile⟩ :=
    outcome_load_eq_ok_iff.1 (Prod.ext hload rfl)
  cases hmanifest.symm.trans hmanifest'
  obtain ⟨grid, events, rules, hprepares, hrules⟩ := outcome_compile_eq_ok_iff.1 hcompile
  obtain ⟨-, hdefinition⟩ := Definition.ofRules_eq_ok_iff.1 hrules
  exact ⟨grid, events, rules, ⟨place, gridText, hplace, hgridText, hprepares⟩, hdefinition.symm⟩

namespace Session.MadeFrom

variable {grid : Grid} {events : List Event} {rules : List (Rule Unit DryRun)}
  (h : session.MadeFrom files config passes grid events rules)

include h

theorem prepares : ∃ text,
    (loader session.manifest config passes).Prepares session.manifest text [] () grid events rules
      () := by
  obtain ⟨place, text, -, -, hprepares⟩ := h.found
  exact ⟨text, hprepares⟩

theorem reads : session.Reads files config grid events := by
  obtain ⟨place, text, hplace, htext, hprepares⟩ := h.found
  obtain ⟨delimiter, hdelimiter, hread⟩ := hprepares.read
  exact ⟨place, text, delimiter, hplace, htext, hdelimiter, hread, hprepares.headers⟩

theorem matrix_eq : session.definition.matrix = .ofRules rules := by
  rw [h.definition]
  rfl

theorem candidates_eq (state : State) (asked : Event) :
    session.definition.candidates state asked =
      (rules.filter (·.concerns state asked)).map Rule.candidate := by
  rw [Definition.candidates, h.matrix_eq]
  exact Matrix.candidates_ofRules rules state asked

/-- The candidates for the state of a row and the event of a column stand for the cell there. -/
theorem forall₂_tries {row : GridRow} (hrow : row ∈ grid.rows) {column : Nat} {event asked : Event}
    (hcolumn : events[column]? = some event) (hname : asked.name = event.name) :
    ∃ transitions, Cell.parse session.manifest (row.cell column) = .ok transitions ∧
      List.Forall₂ (Tries session.manifest passes row.state event.name) transitions
        (session.definition.candidates ⟨row.state⟩ asked) := by
  obtain ⟨text, hprepares⟩ := h.prepares
  obtain ⟨transitions, hparse, hcandidates⟩ := hprepares.forall₂_candidate hrow hcolumn hname
  rw [h.candidates_eq]
  exact ⟨transitions, hparse, hcandidates.imp fun _ _ => tries_of_declares⟩

theorem candidates_elsewhere {state : State} {asked : Event}
    (hplace : state.name ∉ grid.states ∨ asked.name ∉ events.map Event.name) :
    session.definition.candidates state asked = [] := by
  obtain ⟨text, hprepares⟩ := h.prepares
  rw [h.candidates_eq, hprepares.filter_rules_elsewhere hplace]
  rfl

theorem isIdle_of_mem {transition : Transition Unit DryRun}
    (hmem : transition ∈ session.definition.matrix.transitions) : transition.IsIdle := by
  obtain ⟨text, hprepares⟩ := h.prepares
  rw [h.matrix_eq] at hmem
  obtain ⟨rule, hrule, rfl⟩ := Matrix.mem_transitions_ofRules.1 hmem
  obtain ⟨site, -, transition, hrealises⟩ := hprepares.exists_realises hrule
  exact (tries_of_declares hrealises.declares).isIdle

end Session.MadeFrom

/-! ### What an event comes to -/

namespace Session

variable {firing : Firing}

/-- Whether the caller may trigger the event: without roles nobody asks for them. -/
def Authorises (session : Session) (firing : Firing) : Prop :=
  firing.roles = [] ∨ (session.event firing.event).isAuthorisedFor firing.roles = true

/-- What the event of a firing is tried out on. -/
def contextOf (session : Session) (firing : Firing) (params : List (String × Json)) :
    Context DryRun where
  event := session.event firing.event
  entity := ⟨⟨firing.state⟩⟩
  params := if params.isEmpty then none else some (.ofList params)

theorem name_event (session : Session) (name : String) : (session.event name).name = name := by
  unfold event
  cases hfind : session.definition.events.find? (·.name = name) with
  | none => rfl
  | some event => simpa using List.find?_some hfind

theorem fire_of_authorises (h : session.Authorises firing) :
    session.fire files firing = firing.params.mapM (readParam files) >>= fun params =>
      match session.definition.trigger .idle ⟨session.contextOf firing params, ()⟩ with
      | (.error error, _) => .error (.machine error)
      | (.ok none, _) => .ok (.noTransition ⟨firing.state⟩ firing.event)
      | (.ok (some transition), scene) =>
          .ok (.fired ⟨firing.state⟩ scene.context.state firing.event
            (transition.actions.map Action.name)) := by
  have hallowed : (!firing.roles.isEmpty &&
      !(session.event firing.event).isAuthorisedFor firing.roles) = false := by
    rcases h with h | h <;> simp [h]
  unfold fire
  simp only [hallowed, Bool.false_eq_true, if_false, name_event]
  rfl

/-- A firing that is allowed and whose parameters can be read ends well, and the transition that is
found for it tells how. -/
theorem MadeFrom.fire_eq {grid : Grid} {events : List Event} {rules : List (Rule Unit DryRun)}
    (h : session.MadeFrom files config passes grid events rules)
    (hallowed : session.Authorises firing) {params : List (String × Json)}
    (hparams : firing.params.mapM (readParam files) = .ok params) :
    session.fire files firing = .ok (
      match (session.definition.resolve (session.contextOf firing params) ()).1 with
      | none => .noTransition ⟨firing.state⟩ firing.event
      | some transition =>
          .fired ⟨firing.state⟩ transition.target.declared firing.event
            (transition.actions.map Action.name)) := by
  have hlisteners : session.definition.listeners = [] := by
    rw [h.definition]
    rfl
  rw [fire_of_authorises hallowed, hparams]
  simp only [bind, Except.bind]
  rw [Definition.trigger_of_idle hlisteners fun _ => h.isIdle_of_mem]
  cases session.definition.resolve (session.contextOf firing params) () with
  | mk found world => cases found <;> rfl

end Session

end Cli

end GridMachine
