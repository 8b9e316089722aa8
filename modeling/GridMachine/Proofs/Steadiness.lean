import GridMachine.Proofs.Compile

/-!
Factories that do not look at the world. What such a factory builds, and whether it builds anything,
depends on its type and the shared parameter alone. The cells of a grid then have the same rules in
whatever order they are met, and a cell that has rules once has them in every world.
-/

namespace GridMachine

variable {π ω E α β : Type}

/-- Whether a factory comes to the same in every world. -/
def Factory.IsSteady (factory : Factory π ω α) (param : π) : Prop :=
  ∀ world world', (factory param world).1 = (factory param world').1

structure Registry.IsSteady (registry : Registry π ω E) (param : π) : Prop where
  evaluators : ∀ type factory, registry.evaluators.get? type = some factory →
    factory.IsSteady param
  actions : ∀ type factory, registry.actions.get? type = some factory → factory.IsSteady param

/-! ### Steps that end alike in every world -/

namespace Load

/-- Whether a step ends well in every world, and with the same value. -/
def Yields (step : Load ω α) (value : α) : Prop :=
  ∀ world, ∃ world', step.outcome world = (.ok value, world')

theorem yields_pure (value : α) : Yields (pure value : Load ω α) value :=
  fun world => ⟨world, rfl⟩

theorem Yields.bind {step : Load ω α} {value : α} {next : α → Load ω β} {result : β}
    (hstep : Yields step value) (hnext : Yields (next value) result) :
    Yields (step >>= next) result := by
  intro world
  obtain ⟨middle, hfirst⟩ := hstep world
  obtain ⟨world', hlast⟩ := hnext middle
  exact ⟨world', outcome_bind_eq_ok_iff.2 ⟨value, middle, hfirst, hlast⟩⟩

theorem yields_mapM {f : α → Load ω β} {R : α → β → Prop} (hf : ∀ x y, R x y → Yields (f x) y)
    {xs : List α} {ys : List β} (h : List.Forall₂ R xs ys) : Yields (xs.mapM f) ys := by
  induction h with
  | nil => exact yields_pure []
  | cons hhead _ ih =>
      rw [List.mapM_cons]
      exact (hf _ _ hhead).bind (ih.bind (yields_pure _))

theorem yields_mapM_option {f : α → Load ω β} {R : α → β → Prop}
    (hf : ∀ x y, R x y → Yields (f x) y) {x : Option α} {y : Option β} (h : Option.Rel R x y) :
    Yields (x.mapM f) y := by
  cases h with
  | none => exact yields_pure none
  | some h => exact (hf _ _ h).bind (yields_pure _)

theorem Yields.unique {step : Load ω α} {value other : α} (h : Yields step value)
    (h' : Yields step other) (world : ω) : value = other := by
  obtain ⟨_, hvalue⟩ := h world
  obtain ⟨_, hother⟩ := h' world
  rw [hvalue] at hother
  cases hother
  rfl

end Load

/-! ### Cells and their rules -/

/-- What a steady factory has built once it builds in every world. -/
theorem Built.yields {types : NameMap String} {factories : NameMap (Factory π ω α)} {param : π}
    (hsteady : ∀ type factory, factories.get? type = some factory → factory.IsSteady param)
    {name : String} {component : α} (h : Built types factories param name component)
    (kind : ComponentKind) :
    Load.Yields (Loader.build kind types factories param name) component := by
  obtain ⟨type, factory, known, known', htype, hfactory, hcall⟩ := h
  intro world
  have hresult : (factory param world).1 = .ok component := by
    rw [hsteady type factory hfactory world known, hcall]
  unfold Loader.build
  simp only [htype, hfactory]
  rw [Load.outcome_bind, Load.outcome_lift, hresult]
  exact ⟨_, rfl⟩

section Steady

variable {loader : Loader π ω E} (hsteady : loader.registry.IsSteady loader.param)
  {manifest : Manifest} {overrides : List (ActionOverride ω E)}

include hsteady

theorem Loader.Realises.yields {site : Site} {transition : CellTransition} {rule : Rule ω E}
    (h : loader.Realises manifest overrides site transition rule) :
    Load.Yields (loader.ruleOf manifest overrides site transition) rule := by
  obtain ⟨own, hown, hactions⟩ := h.actions
  have hrule : rule =
      { event := site.event
        source := site.source
        target := .fixed ⟨transition.target⟩
        evaluator := rule.evaluator
        actions := own.toList ++ extraActions overrides ⟨transition.target⟩ } := by
    rw [← h.event, ← h.source, ← h.target, ← hactions]
  rw [hrule]
  refine Load.Yields.bind (Load.yields_mapM_option ?_ h.evaluator) ?_
  · exact fun name evaluator hbuilt => hbuilt.yields hsteady.evaluators .evaluator
  · refine Load.Yields.bind (Load.yields_mapM_option ?_ hown) (Load.yields_pure _)
    exact fun name action hbuilt => hbuilt.yields hsteady.actions .action

theorem Loader.RealisesSite.yields {site : Site} {rules : List (Rule ω E)}
    (h : loader.RealisesSite manifest overrides site rules) :
    Load.Yields (loader.rulesOfSite manifest overrides site) rules := by
  obtain ⟨transitions, hparse, hrules⟩ := h
  unfold Loader.rulesOfSite
  rw [hparse]
  exact (Load.yields_pure transitions).bind
    (Load.yields_mapM (fun _ _ hrealises => hrealises.yields hsteady) hrules)

/-- A cell has one list of rules. -/
theorem Loader.RealisesSite.unique {site : Site} {rules others : List (Rule ω E)}
    (h : loader.RealisesSite manifest overrides site rules)
    (h' : loader.RealisesSite manifest overrides site others) (world : ω) : rules = others :=
  (h.yields hsteady).unique (h'.yields hsteady) world

/-- The rules of a grid can be made, wherever those of its cells can. -/
theorem Loader.yields_rulesOf {grid : Grid} {events : List Event} {groups : List (List (Rule ω E))}
    (h : List.Forall₂ (loader.RealisesSite manifest overrides) (grid.sites events) groups) :
    Load.Yields (loader.rulesOf manifest overrides grid events) groups.flatten :=
  (Load.yields_mapM (fun _ _ hrealises => hrealises.yields hsteady) h).bind
    (Load.yields_pure groups.flatten)

end Steady

end GridMachine
