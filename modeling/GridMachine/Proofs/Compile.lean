import GridMachine.Proofs.Check
import GridMachine.Proofs.Load
import GridMachine.Proofs.SideBySide

/-!
Compilations told stage by stage. One that succeeds has passed every stage; one that has passed all
stages but the last ends as the rules and the default path decide. The rules stand for the
transitions in the cells of the grid, one cell after the other, and their components are what the
factories of the registry have built.
-/

namespace GridMachine

/-! ### Components and rules -/

variable {π ω E α : Type}

/-- Whether a component is what the factory of the type that the name has makes of the parameter. -/
def Built (types : NameMap String) (factories : NameMap (Factory π ω α)) (param : π) (name : String)
    (component : α) : Prop :=
  ∃ type factory world world', types.get? name = some type ∧ factories.get? type = some factory ∧
    factory param world = (.ok component, world')

theorem built_of_outcome_build {kind : ComponentKind} {types : NameMap String}
    {factories : NameMap (Factory π ω α)} {param : π} {name : String} {component : α}
    {world world' : ω}
    (h : (Loader.build kind types factories param name).outcome world = (.ok component, world')) :
    Built types factories param name component := by
  unfold Loader.build at h
  cases htype : types.get? name with
  | none =>
      rw [htype] at h
      cases h
  | some type =>
      rw [htype] at h
      cases hfactory : factories.get? type with
      | none =>
          simp only [hfactory] at h
          cases h
      | some factory =>
          simp only [hfactory] at h
          obtain ⟨result, middle, hresult, h⟩ := Load.outcome_bind_eq_ok_iff.1 h
          obtain ⟨rfl, rfl⟩ := Load.outcome_ofExcept_eq_ok_iff.1 h
          rw [Load.outcome_lift, Prod.mk.injEq, Except.ok.injEq] at hresult
          exact ⟨type, factory, world, middle, htype, hfactory, Prod.ext hresult.1 hresult.2⟩

/-- What the rule of a transition in a cell is made of. -/
structure Loader.Realises (loader : Loader π ω E) (manifest : Manifest)
    (overrides : List (ActionOverride ω E)) (site : Site) (transition : CellTransition)
    (rule : Rule ω E) : Prop where
  event : rule.event = site.event
  source : rule.source = site.source
  target : rule.target = .fixed ⟨transition.target⟩
  evaluator : Option.Rel (Built manifest.evaluators loader.registry.evaluators loader.param)
    transition.evaluator rule.evaluator
  actions : ∃ own, Option.Rel (Built manifest.actions loader.registry.actions loader.param)
    transition.action own ∧ rule.actions = own.toList ++ extraActions overrides ⟨transition.target⟩

/-- The rules of a cell, one for each of its transitions. -/
def Loader.RealisesSite (loader : Loader π ω E) (manifest : Manifest)
    (overrides : List (ActionOverride ω E)) (site : Site) (rules : List (Rule ω E)) : Prop :=
  ∃ transitions, Cell.parse manifest site.cell = .ok transitions ∧
    List.Forall₂ (loader.Realises manifest overrides site) transitions rules

variable {loader : Loader π ω E} {manifest : Manifest} {overrides : List (ActionOverride ω E)}
  {world world' : ω}

theorem realises_of_outcome_ruleOf {site : Site} {transition : CellTransition} {rule : Rule ω E}
    (h : (loader.ruleOf manifest overrides site transition).outcome world = (.ok rule, world')) :
    loader.Realises manifest overrides site transition rule := by
  obtain ⟨evaluator, middle, hevaluator, h⟩ := Load.outcome_bind_eq_ok_iff.1 h
  obtain ⟨action, last, haction, h⟩ := Load.outcome_bind_eq_ok_iff.1 h
  cases h
  exact
    { event := rfl
      source := rfl
      target := rfl
      evaluator := Load.rel_of_outcome_mapM (fun _ _ _ _ => built_of_outcome_build) hevaluator
      actions :=
        ⟨action, Load.rel_of_outcome_mapM (fun _ _ _ _ => built_of_outcome_build) haction, rfl⟩ }

theorem realisesSite_of_outcome_rulesOfSite {site : Site} {rules : List (Rule ω E)}
    (h : (loader.rulesOfSite manifest overrides site).outcome world = (.ok rules, world')) :
    loader.RealisesSite manifest overrides site rules := by
  obtain ⟨transitions, hparse, h⟩ := Load.outcome_ofExcept_bind_eq_ok_iff.1 h
  exact ⟨transitions, hparse,
    Load.forall₂_of_outcome_mapM (fun _ _ _ _ => realises_of_outcome_ruleOf) h⟩

/-- An empty cell has no rules. -/
theorem Loader.realisesSite_iff_of_empty {site : Site} (hcell : site.cell = "")
    {rules : List (Rule ω E)} : loader.RealisesSite manifest overrides site rules ↔ rules = [] := by
  have hparse : Cell.parse manifest site.cell = .ok [] := by
    rw [hcell]
    rfl
  constructor
  · rintro ⟨transitions, htransitions, hrules⟩
    rw [hparse] at htransitions
    cases htransitions
    exact List.forall₂_nil_left_iff.1 hrules
  · rintro rfl
    exact ⟨[], hparse, .nil⟩

/-- The rules of a grid are those of its cells, one cell after the other. -/
theorem realisesSite_of_outcome_rulesOf {grid : Grid} {events : List Event}
    {rules : List (Rule ω E)}
    (h : (loader.rulesOf manifest overrides grid events).outcome world = (.ok rules, world')) :
    ∃ groups, rules = groups.flatten ∧
      List.Forall₂ (loader.RealisesSite manifest overrides) (grid.sites events) groups := by
  obtain ⟨groups, middle, hgroups, h⟩ := Load.outcome_bind_eq_ok_iff.1 h
  cases h
  exact ⟨groups, rfl,
    Load.forall₂_of_outcome_mapM (fun _ _ _ _ => realisesSite_of_outcome_rulesOfSite) hgroups⟩

/-! ### Rules and the cells they stand for -/

/-- The transitions that the cells of a grid describe are known by the rules. -/
theorem exists_rule_iff_exists_transition {sites : List Site} {groups : List (List (Rule ω E))}
    (h : List.Forall₂ (loader.RealisesSite manifest overrides) sites groups)
    {P : Site → CellTransition → Prop} {Q : Rule ω E → Prop}
    (hrule : ∀ site transition rule,
      loader.Realises manifest overrides site transition rule → (P site transition ↔ Q rule)) :
    (∃ site ∈ sites, ∃ transitions, Cell.parse manifest site.cell = .ok transitions ∧
      ∃ transition ∈ transitions, P site transition) ↔ ∃ rule ∈ groups.flatten, Q rule := by
  have hsite : ∀ site rules, loader.RealisesSite manifest overrides site rules →
      ((∃ transitions, Cell.parse manifest site.cell = .ok transitions ∧
        ∃ transition ∈ transitions, P site transition) ↔ ∃ rule ∈ rules, Q rule) := by
    rintro site rules ⟨transitions, hparse, hrules⟩
    rw [hparse, ← exists_mem_iff_of_forall₂ (hrule site) hrules]
    simp
  rw [exists_mem_iff_of_forall₂ hsite h]
  simp only [List.mem_flatten]
  constructor
  · rintro ⟨rules, hrules, rule, hmem, hq⟩
    exact ⟨rule, ⟨rules, hrules, hmem⟩, hq⟩
  · rintro ⟨rule, ⟨rules, hrules, hmem⟩, hq⟩
    exact ⟨rules, hrules, rule, hmem, hq⟩

/-! ### Stages -/

/-- All stages of a compilation before the machine is assembled have passed. -/
structure Loader.Prepares (loader : Loader π ω E) (manifest : Manifest) (text : List UInt8)
    (overrides : List (ActionOverride ω E)) (world : ω) (grid : Grid) (events : List Event)
    (rules : List (Rule ω E)) (world' : ω) : Prop where
  config : loader.config.validate = .ok ()
  types : checkTypes loader.registry manifest = .ok ()
  read : ∃ delimiter, loader.config.delimiterByte = .ok delimiter ∧
    Grid.read delimiter text = .ok grid
  headers : grid.events.mapM Header.parse = .ok events
  cells : (loader.rulesOf manifest overrides grid events).outcome world = (.ok rules, world')
  checked : checkRules manifest grid rules = .ok ()

variable {text : List UInt8} {listeners : List (Listener ω E)} {grid : Grid} {events : List Event}
  {rules : List (Rule ω E)}

namespace Loader.Prepares

variable (h : loader.Prepares manifest text overrides world grid events rules world')

include h

theorem nodup_states : grid.states.Nodup := (checkRules_eq_ok_iff.1 h.checked).2.2.1

theorem nodup_events : (events.map Event.name).Nodup := by
  rw [Header.map_name_of_mapM_parse h.headers]
  exact (checkRules_eq_ok_iff.1 h.checked).2.2.2

theorem target_mem_states {rule : Rule ω E} (hrule : rule ∈ rules) :
    rule.target.declared.name ∈ grid.states :=
  (checkRules_eq_ok_iff.1 h.checked).1 rule hrule

theorem exists_groups : ∃ groups, rules = groups.flatten ∧
    List.Forall₂ (loader.RealisesSite manifest overrides) (grid.sites events) groups :=
  realisesSite_of_outcome_rulesOf h.cells

theorem exists_realises {rule : Rule ω E} (hrule : rule ∈ rules) :
    ∃ site ∈ grid.sites events, ∃ transition,
      loader.Realises manifest overrides site transition rule := by
  obtain ⟨groups, rfl, hgroups⟩ := h.exists_groups
  obtain ⟨own, hown, hmem⟩ := List.mem_flatten.1 hrule
  obtain ⟨site, hsite, transitions, -, hrules⟩ := exists_left_of_forall₂ hgroups hown
  obtain ⟨transition, -, hrealises⟩ := exists_left_of_forall₂ hrules hmem
  exact ⟨site, hsite, transition, hrealises⟩

end Loader.Prepares

/-- After the other stages have passed, the rules and the default path decide. -/
theorem Loader.Prepares.outcome_compile
    (h : loader.Prepares manifest text overrides world grid events rules world') :
    (loader.compile manifest text overrides listeners).outcome world =
      ((Definition.ofRules rules manifest.defaultPath listeners).mapError .machine, world') := by
  obtain ⟨delimiter, hdelimiter, hread⟩ := h.read
  unfold Loader.compile
  simp only [Load.outcome_bind, Load.outcome_ofExcept, Except.mapError, h.config, h.types,
    hdelimiter, hread, h.headers, h.cells, h.checked]

/-- A machine comes out exactly when every stage passes. -/
theorem outcome_compile_eq_ok_iff {definition : Definition ω E} :
    (loader.compile manifest text overrides listeners).outcome world = (.ok definition, world') ↔
      ∃ grid events rules,
        loader.Prepares manifest text overrides world grid events rules world' ∧
          Definition.ofRules rules manifest.defaultPath listeners = .ok definition := by
  constructor
  · intro h
    unfold Loader.compile at h
    obtain ⟨_, hconfig, h⟩ := Load.outcome_ofExcept_bind_eq_ok_iff.1 h
    obtain ⟨_, htypes, h⟩ := Load.outcome_ofExcept_bind_eq_ok_iff.1 h
    obtain ⟨delimiter, hdelimiter, h⟩ := Load.outcome_ofExcept_bind_eq_ok_iff.1 h
    obtain ⟨grid, hread, h⟩ := Load.outcome_ofExcept_bind_eq_ok_iff.1 h
    obtain ⟨events, hheaders, h⟩ := Load.outcome_ofExcept_bind_eq_ok_iff.1 h
    obtain ⟨rules, middle, hcells, h⟩ := Load.outcome_bind_eq_ok_iff.1 h
    obtain ⟨_, hchecked, h⟩ := Load.outcome_ofExcept_bind_eq_ok_iff.1 h
    obtain ⟨hrules, rfl⟩ := Load.outcome_ofExcept_eq_ok_iff.1 h
    exact ⟨grid, events, rules,
      ⟨hconfig, htypes, ⟨delimiter, hdelimiter, hread⟩, hheaders, hcells, hchecked⟩, hrules⟩
  · rintro ⟨grid, events, rules, hprepares, hrules⟩
    rw [hprepares.outcome_compile, hrules]
    rfl

/-- A machine is loaded exactly when its manifest can be read and its grid is found and compiles. -/
theorem outcome_load_eq_ok_iff {files : Files} {definition : Definition ω E} :
    (loader.load files text overrides listeners).outcome world = (.ok definition, world') ↔
      ∃ manifest path grid, loader.config.validate = .ok () ∧
        Manifest.ofBytes text = .ok manifest ∧
        loader.config.resolve? files manifest.definition = some path ∧ files path = some grid ∧
        (loader.compile manifest grid overrides listeners).outcome world =
          (.ok definition, world') := by
  unfold Loader.load
  constructor
  · intro h
    obtain ⟨_, hconfig, h⟩ := Load.outcome_ofExcept_bind_eq_ok_iff.1 h
    obtain ⟨manifest, hmanifest, h⟩ := Load.outcome_ofExcept_bind_eq_ok_iff.1 h
    cases hpath : loader.config.resolve? files manifest.definition with
    | none =>
        rw [hpath] at h
        cases h
    | some path =>
        rw [hpath] at h
        simp only at h
        cases hgrid : files path with
        | none =>
            rw [hgrid] at h
            cases h
        | some grid =>
            rw [hgrid] at h
            exact ⟨manifest, path, grid, hconfig, hmanifest, hpath, hgrid, h⟩
  · rintro ⟨manifest, path, grid, hconfig, hmanifest, hpath, hgrid, h⟩
    refine Load.outcome_ofExcept_bind_eq_ok_iff.2 ⟨(), hconfig, ?_⟩
    refine Load.outcome_ofExcept_bind_eq_ok_iff.2 ⟨manifest, hmanifest, ?_⟩
    rw [hpath]
    simp only
    rw [hgrid]
    exact h

end GridMachine
