import GridMachine.Proofs.Meaning

/-!
Default paths through a compilation. The grid vouches for every state that has a row, but a machine
has only the states that a transition leaves or leads to. A state with a row that no transition
touches therefore passes the check of the grid and is refused by the machine.
-/

namespace GridMachine

variable {π ω E : Type}

/-- Whether a transition in some cell leaves the state or leads to it. -/
def Grid.Connects (grid : Grid) (manifest : Manifest) (events : List Event) (state : String) :
    Prop :=
  ∃ site ∈ grid.sites events, ∃ transitions, Cell.parse manifest site.cell = .ok transitions ∧
    ∃ transition ∈ transitions, site.source.name = state ∨ transition.target = state

theorem Definition.get?_paths_unchecked (rules : List (Rule ω E))
    (defaultPath : Option (List String)) (listeners : List (Listener ω E)) (name : String) :
    (unchecked rules defaultPath listeners).paths.get? name =
      if name = defaultPathName then defaultPath.map (·.map State.mk) else none := by
  cases defaultPath with
  | none => simp [unchecked, NameMap.ofList]
  | some path => simp [unchecked, NameMap.ofList, NameMap.get?_insert, eq_comm]

namespace Loader.Prepares

variable {loader : Loader π ω E} {manifest : Manifest} {overrides : List (ActionOverride ω E)}
  {text : List UInt8} {grid : Grid} {events : List Event} {rules : List (Rule ω E)}
  {world world' : ω} (h : loader.Prepares manifest text overrides world grid events rules world')

include h

/-- The states of the machine are those that a transition in a cell leaves or leads to. -/
theorem connects_iff (state : String) :
    grid.Connects manifest events state ↔
      ∃ rule ∈ rules, rule.source = ⟨state⟩ ∨ rule.target.declared = ⟨state⟩ := by
  obtain ⟨groups, rfl, hgroups⟩ := h.exists_groups
  refine exists_rule_iff_exists_transition hgroups ?_
  intro site transition rule hrealises
  rw [hrealises.source, hrealises.target, Target.declared]
  obtain ⟨event, ⟨name⟩, cell⟩ := site
  simp only [State.mk.injEq]

theorem mem_states_of_connects {state : String} (hstate : grid.Connects manifest events state) :
    state ∈ grid.states := by
  obtain ⟨rule, hrule, hsource | htarget⟩ := (h.connects_iff state).1 hstate
  · obtain ⟨site, hsite, transition, hrealises⟩ := h.exists_realises hrule
    have hmem := Grid.source_of_mem_sites hsite
    rw [← hrealises.source, hsource] at hmem
    exact hmem
  · have hmem := h.target_mem_states hrule
    rw [htarget] at hmem
    exact hmem

/-- **Which default paths the machine accepts.** After the other stages have passed, the rules make
a machine exactly when every state of the default path is connected; it is the one that comes out,
and keeps that path. Otherwise the first state that is not connected is told. -/
theorem compile_defaultPath (listeners : List (Listener ω E)) :
    (∀ state, grid.Connects manifest events state → state ∈ grid.states) ∧
    ((∃ definition, Definition.ofRules rules manifest.defaultPath listeners = .ok definition) ↔
      ∀ state ∈ manifest.defaultPath.getD [], grid.Connects manifest events state) ∧
    (∀ definition, Definition.ofRules rules manifest.defaultPath listeners = .ok definition →
      (loader.compile manifest text overrides listeners).outcome world = (.ok definition, world') ∧
        ∀ name, definition.paths.get? name =
          if name = "default" then manifest.defaultPath.map (·.map State.mk) else none) ∧
    ∀ before state after, manifest.defaultPath = some (before ++ state :: after) →
      (∀ earlier ∈ before, grid.Connects manifest events earlier) →
      ¬grid.Connects manifest events state →
        (loader.compile manifest text overrides listeners).outcome world =
          (.error (.machine (.invalidPath "default" state)), world') := by
  refine ⟨fun state => h.mem_states_of_connects, ?_, ?_, ?_⟩
  · simp only [h.connects_iff, Definition.ofRules_eq_ok_iff, exists_and_left, exists_eq', and_true]
  · intro definition hrules
    rw [h.outcome_compile, hrules]
    obtain ⟨-, rfl⟩ := Definition.ofRules_eq_ok_iff.1 hrules
    exact ⟨rfl, Definition.get?_paths_unchecked rules manifest.defaultPath listeners⟩
  · intro before state after hpath hbefore hstate
    simp only [h.connects_iff] at hbefore hstate
    rw [h.outcome_compile, hpath, Definition.ofRules_eq_error rfl hbefore hstate]
    rfl

end Loader.Prepares

/-! ### A machine of one island -/

/-- The one state has a row, but no transition leaves it or leads to it. -/
def islandManifest : Manifest where
  definition := "island.csv"
  defaultPath := some ["A"]

def islandText : List UInt8 := "State,Go\nA,\n".toUTF8.data.toList

def islandLoader : Loader Unit Unit Cli.DryRun where
  registry := {}
  param := ()

def islandGrid : Grid where
  events := ["Go"]
  rows := [⟨2, "A", [""]⟩]

theorem island_prepares :
    islandLoader.Prepares islandManifest islandText [] () islandGrid [.unrestricted "Go"] []
      () where
  config := rfl
  types := rfl
  read := ⟨44, rfl, rfl⟩
  headers := rfl
  cells := rfl
  checked := rfl

/-- All other stages pass and the default path is made of states with a row, but it is refused. -/
theorem island_refused :
    islandLoader.Prepares islandManifest islandText [] () islandGrid [.unrestricted "Go"] [] () ∧
      islandManifest.defaultPath = some ["A"] ∧ "A" ∈ islandGrid.states ∧
        (islandLoader.compile islandManifest islandText [] []).outcome () =
          (.error (.machine (.invalidPath "default" "A")), ()) := by
  refine ⟨island_prepares, rfl, by decide, ?_⟩
  rw [island_prepares.outcome_compile]
  rfl

/-- The path of the drafts is kept; of an island nothing is. -/
theorem compile_defaultPath_draft :
    (∃ definition, (draftLoader.compile draftManifest draftText draftOverrides []).outcome () =
        (.ok definition, ()) ∧
      definition.paths.get? "default" = some [⟨"Draft"⟩, ⟨"Review"⟩]) ∧
    (islandLoader.compile islandManifest islandText [] []).outcome () =
      (.error (.machine (.invalidPath "default" "A")), ()) := by
  obtain ⟨-, haccepted, hpaths, -⟩ := draft_prepares.compile_defaultPath []
  obtain ⟨-, -, -, hrefused⟩ := island_prepares.compile_defaultPath []
  constructor
  · have hconnects : ∀ state ∈ ["Draft", "Review"],
        draftGrid.Connects draftManifest draftEvents state := by
      have hsite : (⟨.unrestricted "Submit", ⟨"Draft"⟩, "Review"⟩ : Site) ∈
          draftGrid.sites draftEvents := List.mem_cons_self
      intro state hstate
      refine ⟨_, hsite, [⟨none, "Review", none⟩], rfl, _, List.mem_singleton_self _, ?_⟩
      simpa [eq_comm] using hstate
    obtain ⟨definition, hrules⟩ := haccepted.2 hconnects
    obtain ⟨hdefinition, hpath⟩ := hpaths definition hrules
    exact ⟨definition, hdefinition, hpath "default"⟩
  · refine hrefused [] "A" [] rfl (by simp) ?_
    rw [island_prepares.connects_iff]
    simp

end GridMachine
