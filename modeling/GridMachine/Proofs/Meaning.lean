import GridMachine.Cli.Session
import GridMachine.Proofs.Assembly
import GridMachine.Proofs.Compile
import GridMachine.Proofs.Queries
import GridMachine.Proofs.Sites

/-!
What a compiled machine means. The candidates for a state and an event are the transitions of the
cell in their row and column, in the order of the cell; where the grid has no such row or column, or
the row does not reach it, there are none. Two cells never meet in one slot, since no state has two
rows and no event has two columns.
-/

namespace GridMachine

variable {π ω E : Type}

/-- What the candidate of a transition in a cell is made of. -/
structure Loader.Declares (loader : Loader π ω E) (manifest : Manifest)
    (overrides : List (ActionOverride ω E)) (state event : String) (transition : CellTransition)
    (candidate : Candidate ω E) : Prop where
  source : candidate.transition.source = ⟨state⟩
  target : candidate.transition.target = .fixed ⟨transition.target⟩
  evaluator : Option.Rel (Built manifest.evaluators loader.registry.evaluators loader.param)
    transition.evaluator candidate.evaluator
  /-- The action of the cell and that of the first override for the target, or an idle one. -/
  actions : ∃ own extra, Option.Rel (Built manifest.actions loader.registry.actions loader.param)
      transition.action own ∧
    extra = (overrides.find? fun override => override.target = ⟨transition.target⟩).map
      ActionOverride.action ∧
    candidate.transition.actions = match own, extra with
      | none, none => [.idle (state ++ "->" ++ event ++ "->" ++ transition.target ++ " action")]
      | own, extra => own.toList ++ extra.toList

/-- What a machine is to be like if it means what a grid with these events says. -/
structure Loader.Means (loader : Loader π ω E) (manifest : Manifest)
    (overrides : List (ActionOverride ω E)) (grid : Grid) (events : List Event)
    (definition : Definition ω E) : Prop where
  states_nodup : grid.states.Nodup
  events_nodup : (events.map Event.name).Nodup
  /-- One candidate for each transition of the cell, in the order of the cell. -/
  cells : ∀ row ∈ grid.rows, ∀ (column : Nat) (event asked : Event),
    events[column]? = some event → asked.name = event.name →
      ∃ transitions, Cell.parse manifest (row.cell column) = .ok transitions ∧
        List.Forall₂ (loader.Declares manifest overrides row.state event.name) transitions
          (definition.candidates ⟨row.state⟩ asked)
  empty : ∀ row ∈ grid.rows, ∀ (column : Nat) (event asked : Event),
    events[column]? = some event → asked.name = event.name → row.cell column = "" →
      definition.candidates ⟨row.state⟩ asked = []
  elsewhere : ∀ state asked, state.name ∉ grid.states ∨ asked.name ∉ events.map Event.name →
    definition.candidates state asked = []
  /-- The event under which candidates are kept is that of the column, with all of its roles. -/
  keys : ∀ state name slot, (definition.matrix.row state).get? name = some slot →
    slot.event.name = name ∧ slot.event ∈ events

variable {loader : Loader π ω E} {manifest : Manifest} {overrides : List (ActionOverride ω E)}

theorem Loader.Realises.declares {site : Site} {transition : CellTransition} {rule : Rule ω E}
    (h : loader.Realises manifest overrides site transition rule) :
    loader.Declares manifest overrides site.source.name site.event.name transition
      rule.candidate := by
  obtain ⟨own, hown, hactions⟩ := h.actions
  refine
    { source := h.source
      target := h.target
      evaluator := h.evaluator
      actions := ⟨own, _, hown, rfl, ?_⟩ }
  show rule.effectiveActions = _
  unfold Rule.effectiveActions
  rw [hactions, h.source, h.event, h.target]
  unfold extraActions
  cases own with
  | some action => rfl
  | none =>
      cases overrides.find? fun override => override.target = ⟨transition.target⟩ with
      | some override => rfl
      | none => rfl

variable {world world' : ω} {text : List UInt8} {grid : Grid} {events : List Event}
  {rules : List (Rule ω E)}

namespace Loader.Prepares

variable (h : loader.Prepares manifest text overrides world grid events rules world')

include h

/-- The rules for a state and an event stand for the cells for them. -/
theorem exists_rules_of_sites (state : State) (event : Event) :
    ∃ groups, rules.filter (·.concerns state event) = groups.flatten ∧
      List.Forall₂ (loader.RealisesSite manifest overrides)
        ((grid.sites events).filter (·.concerns state event)) groups := by
  obtain ⟨groups, rfl, hgroups⟩ := h.exists_groups
  refine exists_filter_flatten_of_forall₂ ?_ hgroups
  rintro site rules ⟨transitions, -, hrules⟩ rule hrule
  obtain ⟨transition, -, hrealises⟩ := exists_left_of_forall₂ hrules hrule
  rw [Rule.concerns, Site.concerns, hrealises.source, hrealises.event]

/-- The rules for the state of a row and the event of a column stand for the cell there. -/
theorem realisesSite_filter {row : GridRow} (hrow : row ∈ grid.rows) {column : Nat}
    {event asked : Event} (hcolumn : events[column]? = some event)
    (hname : asked.name = event.name) :
    loader.RealisesSite manifest overrides ⟨event, ⟨row.state⟩, row.cell column⟩
      (rules.filter (·.concerns ⟨row.state⟩ asked)) := by
  obtain ⟨groups, hrules, hgroups⟩ := h.exists_rules_of_sites ⟨row.state⟩ asked
  rw [Grid.filter_sites h.nodup_states h.nodup_events hrow hcolumn hname] at hgroups
  rw [hrules, GridRow.cell]
  cases hcell : row.cells[column]? with
  | none =>
      -- the row does not reach the column, which reads like an empty cell
      rw [hcell] at hgroups
      cases hgroups
      exact (realisesSite_iff_of_empty rfl).2 rfl
  | some cell =>
      rw [hcell] at hgroups
      cases hgroups with
      | @cons _ own _ _ hsite hrest =>
          cases hrest
          rw [List.flatten_cons, List.flatten_nil, List.append_nil]
          exact hsite

theorem forall₂_candidate {row : GridRow} (hrow : row ∈ grid.rows) {column : Nat}
    {event asked : Event} (hcolumn : events[column]? = some event)
    (hname : asked.name = event.name) :
    ∃ transitions, Cell.parse manifest (row.cell column) = .ok transitions ∧
      List.Forall₂ (loader.Declares manifest overrides row.state event.name) transitions
        ((rules.filter (·.concerns ⟨row.state⟩ asked)).map Rule.candidate) := by
  obtain ⟨transitions, hparse, hown⟩ := h.realisesSite_filter hrow hcolumn hname
  refine ⟨transitions, hparse, ?_⟩
  rw [List.forall₂_map_right_iff]
  exact hown.imp fun _ _ hrealises => hrealises.declares

theorem filter_rules_elsewhere {state : State} {asked : Event}
    (hplace : state.name ∉ grid.states ∨ asked.name ∉ events.map Event.name) :
    rules.filter (·.concerns state asked) = [] := by
  rw [List.filter_eq_nil_iff]
  intro rule hrule hconcerns
  obtain ⟨site, hsite, transition, hrealises⟩ := h.exists_realises hrule
  obtain ⟨hstate, hname⟩ := Rule.concerns_iff.1 hconcerns
  rcases hplace with hplace | hplace
  · apply hplace
    rw [← hstate, hrealises.source]
    exact Grid.source_of_mem_sites hsite
  · apply hplace
    rw [← hname, hrealises.event]
    exact List.mem_map_of_mem (Grid.event_of_mem_sites hsite)

theorem event_mem_of_get?_row {state : State} {name : String} {slot : Slot ω E}
    (hslot : ((Matrix.ofRules rules).row state).get? name = some slot) :
    slot.event.name = name ∧ slot.event ∈ events := by
  obtain ⟨rule, hrule, -, hevent, hname⟩ := Matrix.exists_rule_of_get?_row hslot
  obtain ⟨site, hsite, transition, hrealises⟩ := h.exists_realises hrule
  refine ⟨hname, ?_⟩
  rw [← hevent, hrealises.event]
  exact Grid.event_of_mem_sites hsite

section Events

variable {definition : Definition ω E} (hmatrix : definition.matrix = .ofRules rules)
  {event : Event}

include hmatrix

theorem mem_of_mem_eventsFrom {state : State} (hevent : event ∈ definition.eventsFrom state) :
    event ∈ events := by
  obtain ⟨name, slot, hslot, rfl⟩ := Definition.mem_eventsFrom.1 hevent
  rw [hmatrix] at hslot
  exact (h.event_mem_of_get?_row hslot).2

theorem mem_of_mem_events (hevent : event ∈ definition.events) : event ∈ events := by
  obtain ⟨state, hstate⟩ := Definition.exists_state_of_mem_events hevent
  exact h.mem_of_mem_eventsFrom hmatrix hstate

end Events

end Loader.Prepares

/-- **A machine that compiles means what its grid says.** -/
theorem Loader.compile_means {listeners : List (Listener ω E)} {definition : Definition ω E}
    (h : (loader.compile manifest text overrides listeners).outcome world =
      (.ok definition, world')) :
    ∃ delimiter grid events, loader.config.delimiterByte = .ok delimiter ∧
      Grid.read delimiter text = .ok grid ∧ grid.events.mapM Header.parse = .ok events ∧
        loader.Means manifest overrides grid events definition := by
  obtain ⟨grid, events, rules, hprepares, hrules⟩ := outcome_compile_eq_ok_iff.1 h
  obtain ⟨delimiter, hdelimiter, hread⟩ := hprepares.read
  obtain ⟨-, rfl⟩ := Definition.ofRules_eq_ok_iff.1 hrules
  have hcandidates : ∀ state event,
      (Definition.unchecked rules manifest.defaultPath listeners).candidates state event =
        (rules.filter (·.concerns state event)).map Rule.candidate :=
    Matrix.candidates_ofRules rules
  refine ⟨delimiter, grid, events, hdelimiter, hread, hprepares.headers, ?_⟩
  refine
    { states_nodup := hprepares.nodup_states
      events_nodup := hprepares.nodup_events
      cells := ?_
      empty := ?_
      elsewhere := ?_
      keys := ?_ }
  · intro row hrow column event asked hcolumn hname
    rw [hcandidates]
    exact hprepares.forall₂_candidate hrow hcolumn hname
  · intro row hrow column event asked hcolumn hname hcell
    rw [hcandidates]
    obtain ⟨transitions, hparse, hrules⟩ := hprepares.forall₂_candidate hrow hcolumn hname
    rw [hcell, show Cell.parse manifest "" = .ok [] from rfl] at hparse
    cases hparse
    exact List.forall₂_nil_left_iff.1 hrules
  · intro state asked hplace
    rw [hcandidates, hprepares.filter_rules_elsewhere hplace]
    rfl
  · intro state name slot hslot
    exact hprepares.event_mem_of_get?_row hslot

/-! ### A machine of drafts -/

def draftManifest : Manifest where
  definition := "drafts.csv"
  evaluators := .ofList [("isSound", "sound")]
  actions := .ofList [("record", "journal")]
  defaultPath := some ["Draft", "Review"]

/-- The first row does not reach the second column, and the second has an empty cell. -/
def draftText : List UInt8 :=
  ("State,Submit,Decide[lead]\nDraft,Review\n" ++
    "Review,,[isSound/Draft/record][Review/record]\n").toUTF8.data.toList

def draftLoader : Loader (List String) Unit Cli.DryRun where
  registry := Cli.standIns draftManifest
  param := ["sound"]

def draftOverrides : List (ActionOverride Unit Cli.DryRun) := [⟨⟨"Review"⟩, .idle "greet"⟩]

def draftGrid : Grid where
  events := ["Submit", "Decide[lead]"]
  rows :=
    [⟨2, "Draft", ["Review"]⟩, ⟨3, "Review", ["", "[isSound/Draft/record][Review/record]"]⟩]

def draftEvents : List Event := [.unrestricted "Submit", .restricted "Decide" ["lead"]]

def draftRules : List (Rule Unit Cli.DryRun) :=
  [ { event := .unrestricted "Submit", source := ⟨"Draft"⟩, target := .fixed ⟨"Review"⟩
      actions := [.idle "greet"] },
    { event := .restricted "Decide" ["lead"], source := ⟨"Review"⟩, target := .fixed ⟨"Draft"⟩
      evaluator := some (Cli.standInEvaluator "sound" ["sound"]), actions := [.idle "journal"] },
    { event := .restricted "Decide" ["lead"], source := ⟨"Review"⟩, target := .fixed ⟨"Review"⟩
      actions := [.idle "journal", .idle "greet"] } ]

theorem draft_prepares :
    draftLoader.Prepares draftManifest draftText draftOverrides () draftGrid draftEvents
      draftRules () where
  config := rfl
  types := rfl
  read := ⟨44, rfl, rfl⟩
  headers := rfl
  cells := rfl
  checked := rfl

theorem outcome_compile_draft :
    (draftLoader.compile draftManifest draftText draftOverrides []).outcome () =
      (.ok (.unchecked draftRules draftManifest.defaultPath []), ()) :=
  outcome_compile_eq_ok_iff.2 ⟨_, _, _, draft_prepares, rfl⟩

/-- In review the cell for a decision has two transitions, and both come out as candidates. -/
theorem compile_means_draft :
    ∃ definition, (draftLoader.compile draftManifest draftText draftOverrides []).outcome () =
        (.ok definition, ()) ∧
      (∃ delimiter grid events, draftLoader.config.delimiterByte = .ok delimiter ∧
        Grid.read delimiter draftText = .ok grid ∧ grid.events.mapM Header.parse = .ok events ∧
          draftLoader.Means draftManifest draftOverrides grid events definition) ∧
      (definition.candidates ⟨"Review"⟩ (.unrestricted "Decide")).map
        (·.transition.actions.map Action.name) = [["journal"], ["journal", "greet"]] :=
  ⟨_, outcome_compile_draft, Loader.compile_means outcome_compile_draft, rfl⟩

end GridMachine
