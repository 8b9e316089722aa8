import GridMachine.Proofs.Refusal
import GridMachine.Proofs.Resemblance

/-!
Loading with different components. Where every type of a manifest has a factory that does not fail,
no step of loading asks what a component does or what its factory has left in the world. Two loaders
of this kind and of one configuration therefore go through a manifest and its grid side by side:
they meet the same problem, which is never one of components, or they make machines that resemble
each other.
-/

namespace GridMachine

/-! ### Steps side by side -/

/-- Whether a problem of loading is one of components: a type has no factory, or a factory fails. -/
def LoadError.IsOfComponents : LoadError → Prop
  | .unregistered _ _ _ | .construction _ _ _ => True
  | _ => False

/-- The same problem, which is not one of components, or values that are related. -/
inductive SameResult {α β : Type} (R : α → β → Prop) :
    Except LoadError α → Except LoadError β → Prop
  | error {error : LoadError} (h : ¬error.IsOfComponents) :
      SameResult R (.error error) (.error error)
  | ok {value : α} {other : β} (h : R value other) : SameResult R (.ok value) (.ok other)

namespace SameResult

variable {α β : Type} {R : α → β → Prop} {result : Except LoadError α}
  {other : Except LoadError β} (h : SameResult R result other)

include h

theorem eq_error_iff {error : LoadError} : result = .error error ↔ other = .error error := by
  cases h <;> simp

theorem exists_ok_iff : (∃ value, result = .ok value) ↔ ∃ value, other = .ok value := by
  cases h <;> simp

theorem rel {value : α} {value' : β} (hvalue : result = .ok value) (hvalue' : other = .ok value') :
    R value value' := by
  cases h with
  | error => contradiction
  | ok h =>
      cases hvalue
      cases hvalue'
      exact h

theorem not_isOfComponents {error : LoadError} (herror : result = .error error) :
    ¬error.IsOfComponents := by
  cases h with
  | error h =>
      cases herror
      exact h
  | ok => contradiction

theorem map_left {γ : Type} {S : γ → β → Prop} {f : α → γ}
    (hf : ∀ value other, R value other → S (f value) other) :
    SameResult S (result.map f) other := by
  cases h with
  | error h => exact .error h
  | ok h => exact .ok (hf _ _ h)

end SameResult

namespace Load

variable {ω ω' α α' β β' γ : Type}

/-- Whether two steps come to the same, each in any world of its own. -/
def Parallel (R : α → β → Prop) (step : Load ω α) (other : Load ω' β) : Prop :=
  ∀ world world', SameResult R (step.outcome world).1 (other.outcome world').1

theorem parallel_pure {R : α → β → Prop} {value : α} {other : β} (h : R value other) :
    Parallel R (pure value : Load ω α) (pure other : Load ω' β) :=
  fun _ _ => .ok h

theorem parallel_throw {R : α → β → Prop} {error : LoadError} (h : ¬error.IsOfComponents) :
    Parallel R (throw error : Load ω α) (throw error : Load ω' β) :=
  fun _ _ => .error h

/-- What cannot fail for its components comes to the same as itself. -/
theorem parallel_ofExcept {ε : Type} {tell : ε → LoadError} (result : Except ε α)
    (h : ∀ error, result = .error error → ¬(tell error).IsOfComponents) :
    Parallel Eq (ofExcept tell result : Load ω α) (ofExcept tell result : Load ω' α) := by
  cases result with
  | error error => exact parallel_throw (h error rfl)
  | ok value => exact parallel_pure rfl

theorem Parallel.bind {R : α → β → Prop} {S : α' → β' → Prop} {step : Load ω α}
    {other : Load ω' β} {next : α → Load ω α'} {next' : β → Load ω' β'}
    (hstep : Parallel R step other)
    (hnext : ∀ value value', R value value' → Parallel S (next value) (next' value')) :
    Parallel S (step >>= next) (other >>= next') := by
  intro world world'
  have hresult := hstep world world'
  rw [outcome_bind, outcome_bind]
  generalize step.outcome world = ended at hresult
  generalize other.outcome world' = ended' at hresult
  obtain ⟨result, after⟩ := ended
  obtain ⟨result', after'⟩ := ended'
  cases hresult with
  | error h => exact .error h
  | ok h => exact hnext _ _ h after after'

theorem Parallel.mapM {R : β → β' → Prop} {f : α → Load ω β} {g : α → Load ω' β'}
    (h : ∀ x, Parallel R (f x) (g x)) (xs : List α) :
    Parallel (List.Forall₂ R) (xs.mapM f) (xs.mapM g) := by
  induction xs with
  | nil => exact parallel_pure .nil
  | cons x xs ih =>
      rw [List.mapM_cons, List.mapM_cons]
      refine (h x).bind fun y y' hy => ?_
      exact ih.bind fun ys ys' hys => parallel_pure (.cons hy hys)

theorem Parallel.mapM_option {R : β → β' → Prop} {f : α → Load ω β} {g : α → Load ω' β'}
    (h : ∀ x, Parallel R (f x) (g x)) (x : Option α) :
    Parallel (Option.Rel R) (x.mapM f) (x.mapM g) := by
  cases x with
  | none => exact parallel_pure .none
  | some x => exact (h x).bind fun y y' hy => parallel_pure (.some hy)

end Load

/-! ### Loaders side by side -/

variable {π π' ω ω' E E' α α' : Type}

/-- Whether a factory never fails for a parameter, in whatever world it is called. -/
def Factory.IsSound (factory : Factory π ω α) (param : π) : Prop :=
  ∀ world, ∃ component world', factory param world = (.ok component, world')

/-- Whether all types have a factory that does not fail for the parameter. -/
def Factory.Covers (factories : NameMap (Factory π ω α)) (param : π) (types : NameMap String) :
    Prop :=
  ∀ type ∈ types.values, ∃ factory, factories.get? type = some factory ∧ factory.IsSound param

/-- Whether every type of a component in the manifest has a factory that does not fail. -/
structure Loader.Equips (loader : Loader π ω E) (manifest : Manifest) : Prop where
  evaluators : Factory.Covers loader.registry.evaluators loader.param manifest.evaluators
  actions : Factory.Covers loader.registry.actions loader.param manifest.actions

/-- A name that the manifest does not know is told alike, and any other has its component built. -/
theorem Load.parallel_build {types : NameMap String} {factories : NameMap (Factory π ω α)}
    {param : π} {factories' : NameMap (Factory π' ω' α')} {param' : π'}
    (h : Factory.Covers factories param types) (h' : Factory.Covers factories' param' types)
    (kind : ComponentKind) (name : String) :
    Parallel (fun _ _ => True) (Loader.build kind types factories param name)
      (Loader.build kind types factories' param' name) := by
  unfold Loader.build
  cases htype : types.get? name with
  | none => exact parallel_throw id
  | some type =>
      have hmem : type ∈ types.values := NameMap.mem_values.2 ⟨name, htype⟩
      obtain ⟨factory, hfactory, hsound⟩ := h type hmem
      obtain ⟨factory', hfactory', hsound'⟩ := h' type hmem
      simp only [hfactory, hfactory']
      intro world world'
      obtain ⟨component, after, hcall⟩ := hsound world
      obtain ⟨component', after', hcall'⟩ := hsound' world'
      rw [outcome_bind, outcome_bind, outcome_lift, outcome_lift, hcall, hcall']
      exact .ok trivial

namespace Loader

theorem Equips.checkTypes {loader : Loader π ω E} {manifest : Manifest}
    (h : loader.Equips manifest) : checkTypes loader.registry manifest = .ok () := by
  refine checkTypes_eq_ok_iff.2 ⟨fun entry hentry => ?_, fun entry hentry => ?_⟩
  · obtain ⟨factory, hfactory, -⟩ := h.evaluators entry.2 (List.mem_map_of_mem hentry)
    simp [Registry.hasEvaluator, NameMap.contains, hfactory]
  · obtain ⟨factory, hfactory, -⟩ := h.actions entry.2 (List.mem_map_of_mem hentry)
    simp [Registry.hasAction, NameMap.contains, hfactory]

section Equipped

variable {loader : Loader π ω E} {other : Loader π' ω' E'} {manifest : Manifest}
  (h : loader.Equips manifest) (h' : other.Equips manifest)

include h h'

theorem parallel_ruleOf (site : Site) (transition : CellTransition) :
    Load.Parallel Rule.Resembles (loader.ruleOf manifest [] site transition)
      (other.ruleOf manifest [] site transition) := by
  unfold ruleOf
  refine (Load.Parallel.mapM_option (Load.parallel_build h.evaluators h'.evaluators .evaluator)
    transition.evaluator).bind fun evaluator evaluator' hevaluator => ?_
  refine (Load.Parallel.mapM_option (Load.parallel_build h.actions h'.actions .action)
    transition.action).bind fun action action' _ => ?_
  have hguarded : evaluator.isSome = evaluator'.isSome := by cases hevaluator <;> rfl
  exact Load.parallel_pure ⟨rfl, rfl, ⟨⟨transition.target⟩, rfl, rfl⟩, hguarded⟩

theorem parallel_rulesOfSite (site : Site) :
    Load.Parallel (List.Forall₂ Rule.Resembles) (loader.rulesOfSite manifest [] site)
      (other.rulesOfSite manifest [] site) := by
  unfold rulesOfSite
  refine (Load.parallel_ofExcept _ fun _ _ => id).bind ?_
  rintro transitions _ rfl
  exact Load.Parallel.mapM (parallel_ruleOf h h' site) transitions

theorem parallel_rulesOf (grid : Grid) (events : List Event) :
    Load.Parallel (List.Forall₂ Rule.Resembles) (loader.rulesOf manifest [] grid events)
      (other.rulesOf manifest [] grid events) := by
  unfold rulesOf
  refine (Load.Parallel.mapM (parallel_rulesOfSite h h') (grid.sites events)).bind ?_
  exact fun rules rules' hrules => Load.parallel_pure (List.rel_flatten hrules)

end Equipped

end Loader

/-! ### Rules that resemble each other -/

section Resembling

variable {rules : List (Rule ω E)} {others : List (Rule ω' E')}
  (h : List.Forall₂ Rule.Resembles rules others)

include h

theorem checkRules_eq_of_resembles (manifest : Manifest) (grid : Grid) :
    checkRules manifest grid rules = checkRules manifest grid others := by
  have htargets : rules.map (·.target.declared.name) = others.map (·.target.declared.name) :=
    map_eq_map_of_forall₂ (fun _ _ hrule => congrArg State.name hrule.declared) h
  unfold checkRules
  rw [checkTargets_eq, checkTargets_eq, htargets]

theorem Definition.parallel_ofRules (defaultPath : Option (List String)) :
    Load.Parallel Definition.Resembles
      (.ofExcept .machine (ofRules rules defaultPath []) : Load ω (Definition ω E))
      (.ofExcept .machine (ofRules others defaultPath []) : Load ω' (Definition ω' E')) := by
  rw [ofRules_eq, ofRules_eq, (Matrix.resembles_ofRules h).states]
  cases checkPath (Matrix.ofRules others).states defaultPathName (defaultPath.getD []) with
  | error error => exact Load.parallel_throw id
  | ok _ => exact Load.parallel_pure (resembles_unchecked h defaultPath [] [])

end Resembling

theorem not_isOfComponents_of_checkRules {manifest : Manifest} {grid : Grid}
    {rules : List (Rule ω E)} {error : LoadError}
    (h : checkRules manifest grid rules = .error error) : ¬error.IsOfComponents := by
  obtain ⟨_, rfl, -⟩ | ⟨-, ⟨_, rfl, -⟩ | ⟨-, ⟨-, rfl⟩ | ⟨-, -, rfl⟩⟩⟩ := checkRules_eq_error_iff.1 h
  all_goals exact id

namespace Loader

variable {loader : Loader π ω E} {other : Loader π' ω' E'} (hconfig : loader.config = other.config)

include hconfig

theorem parallel_compile {manifest : Manifest} (h : loader.Equips manifest)
    (h' : other.Equips manifest) (text : List UInt8) :
    Load.Parallel Definition.Resembles (loader.compile manifest text [] [])
      (other.compile manifest text [] []) := by
  unfold compile
  -- the registries are looked at for the types alone, and both have them all
  rw [hconfig, h.checkTypes, h'.checkTypes]
  refine (Load.parallel_ofExcept _ fun _ _ => id).bind fun _ _ _ => ?_
  refine (Load.parallel_pure rfl).bind fun _ _ (_ : () = ()) => ?_
  refine (Load.parallel_ofExcept _ fun _ _ => id).bind ?_
  rintro delimiter _ rfl
  refine (Load.parallel_ofExcept _ fun _ _ => id).bind ?_
  rintro grid _ rfl
  refine (Load.parallel_ofExcept _ fun _ _ => id).bind ?_
  rintro events _ rfl
  refine (parallel_rulesOf h h' grid events).bind fun rules rules' hrules => ?_
  rw [checkRules_eq_of_resembles hrules]
  refine (Load.parallel_ofExcept _ fun _ => not_isOfComponents_of_checkRules).bind fun _ _ _ => ?_
  exact Definition.parallel_ofRules hrules manifest.defaultPath

/-- Loaders that are equipped for the manifest in a text load it side by side. -/
theorem parallel_load {text : List UInt8}
    (h : ∀ manifest, Manifest.ofBytes text = .ok manifest →
      loader.Equips manifest ∧ other.Equips manifest) (files : Files) :
    Load.Parallel Definition.Resembles (loader.load files text [] [])
      (other.load files text [] []) := by
  unfold load
  rw [hconfig]
  refine (Load.parallel_ofExcept _ fun _ _ => id).bind fun _ _ _ => ?_
  cases hmanifest : Manifest.ofBytes text with
  | error fault => exact Load.parallel_throw id
  | ok manifest =>
      obtain ⟨hequips, hequips'⟩ := h manifest hmanifest
      simp only [Load.ofExcept, pure_bind]
      cases other.config.resolve? files manifest.definition with
      | none => exact Load.parallel_throw id
      | some path =>
          simp only
          cases files path with
          | none => exact Load.parallel_throw id
          | some grid => exact parallel_compile hconfig hequips hequips' grid

end Loader

end GridMachine
