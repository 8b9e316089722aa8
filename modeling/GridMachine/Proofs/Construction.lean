import GridMachine.Proofs.CellImage
import GridMachine.Proofs.Compile
import GridMachine.Proofs.Course
import GridMachine.Proofs.Refusal

/-!
The cells of a grid taken in order. Each cell that can be read has the components of its transitions
built, and a cell that cannot be read ends the way through the grid, as does a factory that fails. A
name in a cell is always one that the manifest knows, and once every type has a factory, building a
component is a single call of that factory.
-/

namespace GridMachine

variable {π ω E α β γ : Type}

/-! ### Steps through cells -/

/-- What is met on the way through the cells: a cell that cannot be read, or the name of a component
that is to be built. -/
inductive CellStep where
  | reject (error : CellError)
  | construct (kind : ComponentKind) (name : String)

/-- The call that a step makes: the kind of a factory and the type that it is registered for. Every
name that is built has a type. -/
def CellStep.call? (manifest : Manifest) : CellStep → Option (ComponentKind × String)
  | reject _ => none
  | construct .evaluator name => (manifest.evaluators.get? name).map (.evaluator, ·)
  | construct .action name => (manifest.actions.get? name).map (.action, ·)

/-- The calls that steps make, in their order. -/
def CellStep.calls (manifest : Manifest) (steps : List CellStep) : List (ComponentKind × String) :=
  steps.filterMap (call? manifest)

/-- The evaluator of a transition is built before its action. -/
def CellTransition.steps (transition : CellTransition) : List CellStep :=
  transition.evaluator.toList.map (.construct .evaluator) ++
    transition.action.toList.map (.construct .action)

/-- The transitions of a cell, if it can be read. -/
def Site.transitions (site : Site) (manifest : Manifest) : List CellTransition :=
  match Cell.parse manifest site.cell with
  | .ok transitions => transitions
  | .error _ => []

/-- A cell is read as a whole before anything is built for it. -/
def Site.steps (site : Site) (manifest : Manifest) : List CellStep :=
  match Cell.parse manifest site.cell with
  | .ok transitions => transitions.flatMap CellTransition.steps
  | .error error => [.reject error]

/-- The transitions of the cells, row by row. -/
def Grid.transitions (grid : Grid) (manifest : Manifest) (events : List Event) :
    List CellTransition :=
  (grid.sites events).flatMap (·.transitions manifest)

/-- The steps through the cells, row by row. -/
def Grid.steps (grid : Grid) (manifest : Manifest) (events : List Event) : List CellStep :=
  (grid.sites events).flatMap (·.steps manifest)

/-- What becomes of the one call of the factory for the type that a name has. -/
inductive Called (kind : ComponentKind) (types : NameMap String)
    (factories : NameMap (Factory π ω α)) (param : π) (name : String) (before : ω) :
    Except LoadError Unit → ω → Prop where
  | built {type : String} {factory : Factory π ω α} {component : α} {after : ω}
      (typed : types.get? name = some type) (registered : factories.get? type = some factory)
      (call : factory param before = (.ok component, after)) :
      Called kind types factories param name before (.ok ()) after
  | failed {type cause : String} {factory : Factory π ω α} {after : ω}
      (typed : types.get? name = some type) (registered : factories.get? type = some factory)
      (call : factory param before = (.error cause, after)) :
      Called kind types factories param name before (.error (.construction kind type cause)) after

/-- What a step comes to, and the world it leaves. -/
def Loader.Takes (loader : Loader π ω E) (manifest : Manifest) :
    CellStep → ω → Except LoadError Unit → ω → Prop
  | .reject error, before, result, after => result = .error (.cell error) ∧ after = before
  | .construct .evaluator name, before, result, after =>
      Called .evaluator manifest.evaluators loader.registry.evaluators loader.param name before
        result after
  | .construct .action name, before, result, after =>
      Called .action manifest.actions loader.registry.actions loader.param name before result after

/-! ### Calls that are written down -/

theorem CellStep.calls_cons (manifest : Manifest) (step : CellStep) (steps : List CellStep) :
    calls manifest (step :: steps) = (step.call? manifest).toList ++ calls manifest steps := by
  unfold calls
  rw [List.filterMap_cons]
  cases step.call? manifest <;> rfl

theorem CellStep.calls_append (manifest : Manifest) (steps later : List CellStep) :
    calls manifest (steps ++ later) = calls manifest steps ++ calls manifest later :=
  List.filterMap_append

/-- Whether a journal in the world grows by its kind and type with every call of a factory, and by
nothing else. -/
structure Registry.Journals (registry : Registry π ω E) (param : π)
    (journal : ω → List (ComponentKind × String)) : Prop where
  evaluators : ∀ type factory, registry.evaluators.get? type = some factory →
    ∀ world, journal (factory param world).2 = journal world ++ [(.evaluator, type)]
  actions : ∀ type factory, registry.actions.get? type = some factory →
    ∀ world, journal (factory param world).2 = journal world ++ [(.action, type)]

theorem journal_of_called {kind : ComponentKind} {types : NameMap String}
    {factories : NameMap (Factory π ω α)} {param : π} {name : String} {before after : ω}
    {result : Except LoadError Unit} {journal : ω → List (ComponentKind × String)}
    (hjournal : ∀ type factory, factories.get? type = some factory →
      ∀ world, journal (factory param world).2 = journal world ++ [(kind, type)])
    (h : Called kind types factories param name before result after) :
    journal after = journal before ++ ((types.get? name).map (kind, ·)).toList := by
  cases h with
  | built typed registered call =>
      have hcall := hjournal _ _ registered before
      rw [call] at hcall
      rw [typed]
      exact hcall
  | failed typed registered call =>
      have hcall := hjournal _ _ registered before
      rw [call] at hcall
      rw [typed]
      exact hcall

section Journals

variable {loader : Loader π ω E} {manifest : Manifest} {before after : ω}
  {journal : ω → List (ComponentKind × String)}
  (hjournal : loader.registry.Journals loader.param journal)

include hjournal

theorem Loader.journal_of_takes {step : CellStep} {result : Except LoadError Unit}
    (h : loader.Takes manifest step before result after) :
    journal after = journal before ++ (step.call? manifest).toList := by
  cases step with
  | reject error =>
      obtain ⟨-, rfl⟩ := h
      exact (List.append_nil _).symm
  | construct kind name =>
      cases kind with
      | evaluator => exact journal_of_called hjournal.evaluators h
      | action => exact journal_of_called hjournal.actions h

theorem Loader.journal_of_course {steps : List CellStep}
    (h : Course (loader.Takes manifest) steps before (.ok ()) after) :
    journal after = journal before ++ CellStep.calls manifest steps := by
  induction steps generalizing before with
  | nil =>
      obtain ⟨-, rfl⟩ := Course.nil_iff.1 h
      exact (List.append_nil _).symm
  | cons step steps ih =>
      rcases Course.cons_iff.1 h with ⟨error, heq, -⟩ | ⟨middle, passed, rest⟩
      · contradiction
      · rw [ih rest, Loader.journal_of_takes hjournal passed, CellStep.calls_cons,
          List.append_assoc]

end Journals

/-! ### Loading as a course of steps -/

/-- Whether a step of loading comes to what a course of smaller steps comes to. -/
def Load.Follows (takes : γ → ω → Except LoadError Unit → ω → Prop) (step : Load ω α)
    (steps : List γ) : Prop :=
  ∀ before result after,
    (step.outcome before).map (·.map fun _ => ()) id = (result, after) ↔
      Course takes steps before result after

namespace Load

variable {takes : γ → ω → Except LoadError Unit → ω → Prop}

theorem Follows.outcome_eq_error_iff {step : Load ω α} {steps : List γ} {before after : ω}
    {error : LoadError} (h : Follows takes step steps) :
    step.outcome before = (.error error, after) ↔
      Course takes steps before (.error error) after := by
  rw [← h before]
  rcases step.outcome before with ⟨_ | _, _⟩ <;> simp [Except.map]

theorem Follows.exists_outcome_eq_ok_iff {step : Load ω α} {steps : List γ} {before after : ω}
    (h : Follows takes step steps) :
    (∃ value, step.outcome before = (.ok value, after)) ↔
      Course takes steps before (.ok ()) after := by
  rw [← h before]
  rcases step.outcome before with ⟨_ | _, _⟩ <;> simp [Except.map]

theorem follows_pure (value : α) : Follows takes (pure value : Load ω α) [] := by
  intro before result after
  rw [Course.nil_iff, outcome_pure]
  simp [Except.map, eq_comm]

theorem Follows.bind {step : Load ω α} {next : α → Load ω β} {steps later : List γ}
    (hstep : Follows takes step steps) (hnext : ∀ value, Follows takes (next value) later) :
    Follows takes (step >>= next) (steps ++ later) := by
  intro before result after
  rw [Course.append_iff, outcome_bind]
  simp only [← hstep before]
  rcases step.outcome before with ⟨error | value, middle⟩
  · simp [Except.map, eq_comm]
  · simpa [Except.map] using hnext value middle result after

theorem Follows.mapM {f : α → Load ω β} {steps : α → List γ} {xs : List α}
    (h : ∀ x ∈ xs, Follows takes (f x) (steps x)) :
    Follows takes (xs.mapM f) (xs.flatMap steps) := by
  induction xs with
  | nil => exact follows_pure []
  | cons x xs ih =>
      obtain ⟨hx, hxs⟩ := List.forall_mem_cons.1 h
      rw [List.mapM_cons, List.flatMap_cons]
      refine hx.bind fun y => ?_
      rw [← List.append_nil (xs.flatMap steps)]
      exact (ih hxs).bind fun ys => follows_pure (y :: ys)

theorem Follows.mapM_option {f : α → Load ω β} {step : α → γ} {x : Option α}
    (h : ∀ a ∈ x, Follows takes (f a) [step a]) :
    Follows takes (x.mapM f) (x.toList.map step) := by
  cases x with
  | none => exact follows_pure none
  | some a => exact (h a rfl).bind fun b => follows_pure (some b)

theorem follows_throw {step : γ} {error : LoadError}
    (h : ∀ before result after, takes step before result after ↔
      result = .error error ∧ after = before) :
    Follows takes (throw error : Load ω α) [step] := by
  intro before result after
  rw [Course.singleton_iff, h]
  change ((.error error, before) : Except LoadError Unit × ω) = (result, after) ↔ _
  rw [Prod.mk.injEq, eq_comm, eq_comm (a := before)]

theorem follows_build {kind : ComponentKind} {types : NameMap String}
    {factories : NameMap (Factory π ω α)} {param : π} {name type : String}
    {factory : Factory π ω α} {step : γ} (htype : types.get? name = some type)
    (hfactory : factories.get? type = some factory)
    (h : ∀ before result after, takes step before result after ↔
      Called kind types factories param name before result after) :
    Follows takes (Loader.build kind types factories param name) [step] := by
  intro before result after
  have hbuild : Loader.build kind types factories param name = (do
      let outcome ← ExceptT.lift (factory param)
      Load.ofExcept (.construction kind type) outcome) := by
    unfold Loader.build
    simp only [htype, hfactory]
  rw [Course.singleton_iff, h, hbuild, outcome_bind, outcome_lift]
  simp only [outcome_ofExcept]
  constructor
  · intro heq
    cases hcall : factory param before with
    | mk outcome middle =>
        cases outcome with
        | ok component =>
            rw [hcall] at heq
            cases heq
            exact .built htype hfactory hcall
        | error cause =>
            rw [hcall] at heq
            cases heq
            exact .failed htype hfactory hcall
  · intro hcalled
    cases hcalled with
    | built typed registered call =>
        cases htype.symm.trans typed
        cases hfactory.symm.trans registered
        rw [call]
        rfl
    | failed typed registered call =>
        cases htype.symm.trans typed
        cases hfactory.symm.trans registered
        rw [call]
        rfl

end Load

/-! ### The way through the cells -/

namespace Loader

variable {loader : Loader π ω E} {manifest : Manifest} {overrides : List (ActionOverride ω E)}

section Provided

variable (hprovides : loader.registry.Provides manifest)

include hprovides

/-- The name is known and its type has a factory, so that the factory is called. -/
theorem follows_buildEvaluator {name : String} (hname : manifest.hasEvaluator name = true) :
    Load.Follows (loader.Takes manifest) (loader.buildEvaluator manifest name)
      [.construct .evaluator name] := by
  obtain ⟨type, htype⟩ := Option.isSome_iff_exists.1 hname
  have hregistered := hprovides.evaluators (name, type) (NameMap.get?_eq_some_iff.1 htype)
  obtain ⟨factory, hfactory⟩ := Option.isSome_iff_exists.1 hregistered
  exact Load.follows_build htype hfactory fun _ _ _ => Iff.rfl

theorem follows_buildAction {name : String} (hname : manifest.hasAction name = true) :
    Load.Follows (loader.Takes manifest) (loader.buildAction manifest name)
      [.construct .action name] := by
  obtain ⟨type, htype⟩ := Option.isSome_iff_exists.1 hname
  have hregistered := hprovides.actions (name, type) (NameMap.get?_eq_some_iff.1 htype)
  obtain ⟨factory, hfactory⟩ := Option.isSome_iff_exists.1 hregistered
  exact Load.follows_build htype hfactory fun _ _ _ => Iff.rfl

theorem follows_ruleOf {site : Site} {transition : CellTransition}
    (hnamed : Cell.Named manifest transition) :
    Load.Follows (loader.Takes manifest) (loader.ruleOf manifest overrides site transition)
      transition.steps := by
  have hevaluator : Load.Follows (loader.Takes manifest)
      (transition.evaluator.mapM (loader.buildEvaluator manifest))
      (transition.evaluator.toList.map (.construct .evaluator)) :=
    .mapM_option fun name hname => follows_buildEvaluator hprovides (hnamed.evaluator name hname)
  have haction : Load.Follows (loader.Takes manifest)
      (transition.action.mapM (loader.buildAction manifest))
      (transition.action.toList.map (.construct .action)) :=
    .mapM_option fun name hname => follows_buildAction hprovides (hnamed.action name hname)
  unfold ruleOf CellTransition.steps
  refine hevaluator.bind fun evaluator => ?_
  rw [← List.append_nil (transition.action.toList.map _)]
  exact haction.bind fun action => Load.follows_pure _

theorem follows_rulesOfSite (site : Site) :
    Load.Follows (loader.Takes manifest) (loader.rulesOfSite manifest overrides site)
      (site.steps manifest) := by
  unfold rulesOfSite Site.steps
  cases hparse : Cell.parse manifest site.cell with
  -- nothing of the cell is built, though its first transitions may be sound
  | error error => exact Load.follows_throw fun _ _ _ => Iff.rfl
  | ok transitions =>
      have hnamed := (Cell.parse_eq_ok_iff.1 hparse).2
      exact Load.Follows.mapM fun transition hmem =>
        follows_ruleOf hprovides (hnamed transition hmem)

/-- The rules of a grid are made on the way through its cells. -/
theorem follows_rulesOf (grid : Grid) (events : List Event) :
    Load.Follows (loader.Takes manifest) (loader.rulesOf manifest overrides grid events)
      (grid.steps manifest events) := by
  unfold rulesOf Grid.steps
  rw [← List.append_nil (List.flatMap _ _)]
  refine Load.Follows.bind (.mapM fun site _ => follows_rulesOfSite hprovides site) ?_
  exact fun rules => Load.follows_pure rules.flatten

end Provided

/-- The rules of a grid lead where the transitions of its cells do, one after the other. -/
theorem map_target_of_outcome_rulesOf {grid : Grid} {events : List Event} {rules : List (Rule ω E)}
    {world world' : ω}
    (h : (loader.rulesOf manifest overrides grid events).outcome world = (.ok rules, world')) :
    (grid.transitions manifest events).map CellTransition.target =
      rules.map (·.target.declared.name) := by
  have hsite : ∀ site rules, loader.RealisesSite manifest overrides site rules →
      (site.transitions manifest).map CellTransition.target =
        rules.map (·.target.declared.name) := by
    rintro site rules ⟨transitions, hparse, hrules⟩
    rw [Site.transitions, hparse]
    refine map_eq_map_of_forall₂ (fun transition rule hrealises => ?_) hrules
    rw [hrealises.target]
    rfl
  obtain ⟨groups, rfl, hgroups⟩ := realisesSite_of_outcome_rulesOf h
  rw [Grid.transitions, List.map_flatMap, List.map_flatten, List.flatMap_def]
  rw [map_eq_map_of_forall₂ hsite hgroups]

end Loader

end GridMachine
