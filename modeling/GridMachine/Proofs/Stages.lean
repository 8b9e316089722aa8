import GridMachine.Proofs.Construction
import GridMachine.Proofs.DefaultPath

/-!
The stages of a compilation. The configuration, the types, the grid and the headers come first, and
no factory is called for them. Then the cells are taken in order and their components are built, and
last the rules are held against the rows and the default path. The first stage that fails decides
what is told, and the factories have been called for exactly the components met so far.
-/

namespace GridMachine

open InOrder

variable {π ω E : Type}

/-- The configuration is valid and every type has a factory. -/
structure Loader.Ready (loader : Loader π ω E) (manifest : Manifest) : Prop where
  config : loader.config.validate = .ok ()
  types : loader.registry.Provides manifest

/-- The grid and the headers of its columns can be read. -/
structure Loader.Opens (loader : Loader π ω E) (manifest : Manifest) (text : List UInt8)
    (grid : Grid) (events : List Event) : Prop where
  ready : loader.Ready manifest
  read : Grid.read loader.config.delimiter.toNat.toUInt8 text = .ok grid
  headers : grid.events.mapM Header.parse = .ok events

/-- All cells can be read, and all of their components are built. -/
structure Loader.Constructs (loader : Loader π ω E) (manifest : Manifest) (text : List UInt8)
    (grid : Grid) (events : List Event) (before after : ω) : Prop where
  opens : loader.Opens manifest text grid events
  cells : Course (loader.Takes manifest) (grid.steps manifest events) before (.ok ()) after

/-- Every target and every state of the default path has a row. -/
structure Grid.Covers (grid : Grid) (manifest : Manifest) (events : List Event) : Prop where
  targets : ∀ transition ∈ grid.transitions manifest events, transition.target ∈ grid.states
  path : ∀ state ∈ manifest.defaultPath.getD [], state ∈ grid.states

/-- How a compilation ends: the calls of factories that have been made, its outcome and the world
that is left. -/
inductive Loader.Concludes (loader : Loader π ω E) (manifest : Manifest) (text : List UInt8)
    (before : ω) : List (ComponentKind × String) → Except LoadError Unit → ω → Prop where
  | config {error : ConfigError} (invalid : loader.config.validate = .error error) :
      Concludes loader manifest text before [] (.error (.config error)) before
  /-- The first evaluator of the manifest, by name, of which the type has no factory. -/
  | evaluatorType {name type : String} (valid : loader.config.validate = .ok ())
      (first : IsFirst (loader.registry.hasEvaluator ·.2 = false) manifest.evaluators.entries
        (name, type)) :
      Concludes loader manifest text before [] (.error (.unregistered .evaluator name type)) before
  /-- The first such action, if all types of evaluators have factories. -/
  | actionType {name type : String} (valid : loader.config.validate = .ok ())
      (evaluators : ∀ entry ∈ manifest.evaluators.entries,
        loader.registry.hasEvaluator entry.2 = true)
      (first : IsFirst (loader.registry.hasAction ·.2 = false) manifest.actions.entries
        (name, type)) :
      Concludes loader manifest text before [] (.error (.unregistered .action name type)) before
  | grid {error : GridError} (ready : loader.Ready manifest)
      (unreadable : Grid.read loader.config.delimiter.toNat.toUInt8 text = .error error) :
      Concludes loader manifest text before [] (.error (.grid error)) before
  /-- The first header, by column, that is not that of an event. -/
  | header {grid : Grid} {header : String} {error : HeaderError} (ready : loader.Ready manifest)
      (read : Grid.read loader.config.delimiter.toNat.toUInt8 text = .ok grid)
      (first : IsFirst (fun header => ∃ error, Header.parse header = .error error) grid.events
        header)
      (malformed : Header.parse header = .error error) :
      Concludes loader manifest text before [] (.error (.header error)) before
  /-- The first step through the cells that fails; none is taken after it. -/
  | cell {grid : Grid} {events : List Event} {ran later : List CellStep} {step : CellStep}
      {error : LoadError} {middle after : ω} (opens : loader.Opens manifest text grid events)
      (split : grid.steps manifest events = ran ++ step :: later)
      (passed : Course (loader.Takes manifest) ran before (.ok ()) middle)
      (failed : loader.Takes manifest step middle (.error error) after) :
      Concludes loader manifest text before (CellStep.calls manifest (ran ++ [step]))
        (.error error) after
  | target {grid : Grid} {events : List Event} {state : String} {after : ω}
      (constructs : loader.Constructs manifest text grid events before after)
      (first : IsFirst (· ∉ grid.states)
        ((grid.transitions manifest events).map CellTransition.target) state) :
      Concludes loader manifest text before (CellStep.calls manifest (grid.steps manifest events))
        (.error (.invalidTarget state)) after
  | defaultPath {grid : Grid} {events : List Event} {state : String} {after : ω}
      (constructs : loader.Constructs manifest text grid events before after)
      (targets : ∀ transition ∈ grid.transitions manifest events, transition.target ∈ grid.states)
      (first : IsFirst (· ∉ grid.states) (manifest.defaultPath.getD []) state) :
      Concludes loader manifest text before (CellStep.calls manifest (grid.steps manifest events))
        (.error (.invalidDefaultPath state)) after
  | states {grid : Grid} {events : List Event} {after : ω}
      (constructs : loader.Constructs manifest text grid events before after)
      (covers : grid.Covers manifest events) (repeats : ¬grid.states.Nodup) :
      Concludes loader manifest text before (CellStep.calls manifest (grid.steps manifest events))
        (.error (.duplicateStates (repeated grid.states))) after
  | events {grid : Grid} {events : List Event} {after : ω}
      (constructs : loader.Constructs manifest text grid events before after)
      (covers : grid.Covers manifest events) (states : grid.states.Nodup)
      (repeats : ¬(events.map Event.name).Nodup) :
      Concludes loader manifest text before (CellStep.calls manifest (grid.steps manifest events))
        (.error (.duplicateEvents (repeated (events.map Event.name)))) after
  /-- The first state of the default path that no transition leaves or leads to. -/
  | machine {grid : Grid} {events : List Event} {state : String} {after : ω}
      (constructs : loader.Constructs manifest text grid events before after)
      (covers : grid.Covers manifest events) (states : grid.states.Nodup)
      (names : (events.map Event.name).Nodup)
      (first : IsFirst (¬grid.Connects manifest events ·) (manifest.defaultPath.getD []) state) :
      Concludes loader manifest text before (CellStep.calls manifest (grid.steps manifest events))
        (.error (.machine (.invalidPath "default" state))) after
  | done {grid : Grid} {events : List Event} {after : ω}
      (constructs : loader.Constructs manifest text grid events before after)
      (covers : grid.Covers manifest events) (states : grid.states.Nodup)
      (names : (events.map Event.name).Nodup)
      (path : ∀ state ∈ manifest.defaultPath.getD [], grid.Connects manifest events state) :
      Concludes loader manifest text before (CellStep.calls manifest (grid.steps manifest events))
        (.ok ()) after

namespace Loader

variable {loader : Loader π ω E} {manifest : Manifest} {text : List UInt8}
  {overrides : List (ActionOverride ω E)} {listeners : List (Listener ω E)} {grid : Grid}
  {events : List Event} {rules : List (Rule ω E)} {before after : ω}

/-! ### Stages that have passed -/

/-- Once the types have been found, what is left is the grid. -/
theorem Ready.outcome_compile (h : loader.Ready manifest) :
    (loader.compile manifest text overrides listeners).outcome before =
      (Load.ofExcept .grid (Grid.read loader.config.delimiter.toNat.toUInt8 text) >>= fun grid =>
        Load.ofExcept .header (grid.events.mapM Header.parse) >>= fun events =>
        loader.rulesOf manifest overrides grid events >>= fun rules =>
        Load.ofExcept id (checkRules manifest grid rules) >>= fun _ =>
        Load.ofExcept .machine
          (Definition.ofRules rules manifest.defaultPath listeners)).outcome before := by
  have hdelimiter := Config.delimiterByte_of_validate h.config
  have htypes := checkTypes_eq_ok_iff.2 h.types
  unfold compile
  simp only [Load.outcome_bind, Load.outcome_ofExcept, Except.mapError, h.config, htypes,
    hdelimiter]

theorem Opens.follows_rulesOf (h : loader.Opens manifest text grid events)
    (overrides : List (ActionOverride ω E)) :
    Load.Follows (loader.Takes manifest) (loader.rulesOf manifest overrides grid events)
      (grid.steps manifest events) :=
  Loader.follows_rulesOf h.ready.types grid events

theorem Constructs.exists_rules
    (h : loader.Constructs manifest text grid events before after)
    (overrides : List (ActionOverride ω E)) :
    ∃ rules, (loader.rulesOf manifest overrides grid events).outcome before = (.ok rules, after) :=
  (h.opens.follows_rulesOf overrides).exists_outcome_eq_ok_iff.2 h.cells

/-- The checks see the rules only by where they lead, which is where the cells lead. -/
theorem Constructs.outcome_compile_of_refused {error : LoadError}
    (h : loader.Constructs manifest text grid events before after)
    (hrefused : ∀ rules : List (Rule ω E), (grid.transitions manifest events).map
      CellTransition.target = rules.map (·.target.declared.name) →
        checkRules manifest grid rules = .error error) :
    (loader.compile manifest text overrides listeners).outcome before = (.error error, after) := by
  obtain ⟨rules, hrules⟩ := h.exists_rules overrides
  have hcheck := hrefused rules (map_target_of_outcome_rulesOf hrules)
  rw [h.opens.ready.outcome_compile]
  simp only [Load.outcome_bind, Load.outcome_ofExcept, Except.mapError, h.opens.read,
    h.opens.headers, hrules, hcheck, id]

theorem forall_target_iff {states : List String}
    (hmap : (grid.transitions manifest events).map CellTransition.target =
      rules.map (·.target.declared.name)) :
    (∀ transition ∈ grid.transitions manifest events, transition.target ∈ states) ↔
      ∀ rule ∈ rules, rule.target.declared.name ∈ states := by
  have htransitions := @List.forall_mem_map _ _ CellTransition.target
    (grid.transitions manifest events) (· ∈ states)
  have hrules := @List.forall_mem_map _ _ (fun rule : Rule ω E => rule.target.declared.name)
    rules (· ∈ states)
  rw [← htransitions, hmap, hrules]

/-- Where all checks of the rules pass, only the assembly of the machine is left. -/
theorem Constructs.exists_prepares
    (h : loader.Constructs manifest text grid events before after)
    (hcovers : grid.Covers manifest events) (hstates : grid.states.Nodup)
    (hnames : (events.map Event.name).Nodup) (overrides : List (ActionOverride ω E)) :
    ∃ rules, loader.Prepares manifest text overrides before grid events rules after := by
  obtain ⟨rules, hrules⟩ := h.exists_rules overrides
  have htargets := (forall_target_iff (map_target_of_outcome_rulesOf hrules)).1 hcovers.targets
  have hheaders := h.opens.headers
  rw [Header.map_name_of_mapM_parse hheaders] at hnames
  exact ⟨rules,
    { config := h.opens.ready.config
      types := checkTypes_eq_ok_iff.2 h.opens.ready.types
      read := ⟨_, Config.delimiterByte_of_validate h.opens.ready.config, h.opens.read⟩
      headers := hheaders
      cells := hrules
      checked := checkRules_eq_ok_iff.2 ⟨htargets, hcovers.path, hstates, hnames⟩ }⟩

/-! ### Every compilation -/

theorem outcome_of_concludes {calls : List (ComponentKind × String)}
    {verdict : Except LoadError Unit}
    (h : loader.Concludes manifest text before calls verdict after)
    (overrides : List (ActionOverride ω E)) (listeners : List (Listener ω E)) :
    ∃ result, (loader.compile manifest text overrides listeners).outcome before =
      (result, after) ∧ result.map (fun _ => ()) = verdict := by
  cases h with
  | config invalid =>
      refine ⟨.error _, ?_, rfl⟩
      unfold compile
      simp only [Load.outcome_bind, Load.outcome_ofExcept, Except.mapError, invalid]
  | evaluatorType valid first =>
      have htypes := checkTypes_eq_error_iff.2 (.inl ⟨_, rfl, first⟩)
      refine ⟨.error _, ?_, rfl⟩
      unfold compile
      simp only [Load.outcome_bind, Load.outcome_ofExcept, Except.mapError, valid, htypes, id]
  | actionType valid evaluators first =>
      have htypes := checkTypes_eq_error_iff.2 (.inr ⟨evaluators, _, rfl, first⟩)
      refine ⟨.error _, ?_, rfl⟩
      unfold compile
      simp only [Load.outcome_bind, Load.outcome_ofExcept, Except.mapError, valid, htypes, id]
  | grid ready unreadable =>
      refine ⟨.error _, ?_, rfl⟩
      rw [ready.outcome_compile]
      simp only [Load.outcome_bind, Load.outcome_ofExcept, Except.mapError, unreadable]
  | header ready read first malformed =>
      have hheaders := mapM_eq_error_iff.2 ⟨_, malformed, first⟩
      refine ⟨.error _, ?_, rfl⟩
      rw [ready.outcome_compile]
      simp only [Load.outcome_bind, Load.outcome_ofExcept, Except.mapError, read, hheaders]
  | cell opens split passed failed =>
      have hcourse := Course.error_iff.2 ⟨_, _, _, _, split, passed, failed⟩
      have hrules := (opens.follows_rulesOf overrides).outcome_eq_error_iff.2 hcourse
      refine ⟨.error _, ?_, rfl⟩
      rw [opens.ready.outcome_compile]
      simp only [Load.outcome_bind, Load.outcome_ofExcept, Except.mapError, opens.read,
        opens.headers, hrules]
  -- from here on the components are built, and the checks look at where the rules lead
  | target constructs first =>
      refine ⟨.error _, constructs.outcome_compile_of_refused fun rules hmap => ?_, rfl⟩
      rw [hmap] at first
      exact checkRules_eq_error_iff.2 (.inl ⟨_, rfl, first⟩)
  | defaultPath constructs targets first =>
      refine ⟨.error _, constructs.outcome_compile_of_refused fun rules hmap => ?_, rfl⟩
      exact checkRules_eq_error_iff.2 (.inr ⟨(forall_target_iff hmap).1 targets,
        .inl ⟨_, rfl, first⟩⟩)
  | states constructs covers repeats =>
      refine ⟨.error _, constructs.outcome_compile_of_refused fun rules hmap => ?_, rfl⟩
      exact checkRules_eq_error_iff.2 (.inr ⟨(forall_target_iff hmap).1 covers.targets,
        .inr ⟨covers.path, .inl ⟨repeats, rfl⟩⟩⟩)
  | events constructs covers states repeats =>
      refine ⟨.error _, constructs.outcome_compile_of_refused fun rules hmap => ?_, rfl⟩
      rw [Header.map_name_of_mapM_parse constructs.opens.headers] at repeats ⊢
      exact checkRules_eq_error_iff.2 (.inr ⟨(forall_target_iff hmap).1 covers.targets,
        .inr ⟨covers.path, .inr ⟨states, repeats, rfl⟩⟩⟩)
  | machine constructs covers states names first =>
      obtain ⟨rules, hprepares⟩ := constructs.exists_prepares covers states names overrides
      simp only [hprepares.connects_iff] at first
      have hrules : Definition.ofRules rules manifest.defaultPath listeners = .error _ :=
        Definition.ofRules_eq_error_iff.2 ⟨_, rfl, first⟩
      refine ⟨.error _, ?_, rfl⟩
      rw [hprepares.outcome_compile, hrules]
      rfl
  | done constructs covers states names path =>
      obtain ⟨rules, hprepares⟩ := constructs.exists_prepares covers states names overrides
      simp only [hprepares.connects_iff] at path
      refine ⟨.ok (.unchecked rules manifest.defaultPath listeners), ?_, rfl⟩
      rw [hprepares.outcome_compile, Definition.ofRules_eq_ok_iff.2 ⟨path, rfl⟩]
      rfl

theorem Constructs.exists_concludes (h : loader.Constructs manifest text grid events before after) :
    ∃ calls verdict, loader.Concludes manifest text before calls verdict after := by
  rcases forall_not_or_exists_isFirst (· ∉ grid.states)
    ((grid.transitions manifest events).map CellTransition.target) with htargets | ⟨state, hfirst⟩
  rotate_left
  · exact ⟨_, _, .target h hfirst⟩
  simp only [not_not, List.forall_mem_map] at htargets
  rcases forall_not_or_exists_isFirst (· ∉ grid.states) (manifest.defaultPath.getD []) with
    hpath | ⟨state, hfirst⟩
  rotate_left
  · exact ⟨_, _, .defaultPath h htargets hfirst⟩
  have hcovers : grid.Covers manifest events := ⟨htargets, by simpa using hpath⟩
  by_cases hstates : grid.states.Nodup
  rotate_left
  · exact ⟨_, _, .states h hcovers hstates⟩
  by_cases hnames : (events.map Event.name).Nodup
  rotate_left
  · exact ⟨_, _, .events h hcovers hstates hnames⟩
  rcases forall_not_or_exists_isFirst (¬grid.Connects manifest events ·)
    (manifest.defaultPath.getD []) with hconnects | ⟨state, hfirst⟩
  · exact ⟨_, _, .done h hcovers hstates hnames (by simpa using hconnects)⟩
  · exact ⟨_, _, .machine h hcovers hstates hnames hfirst⟩

theorem Opens.exists_concludes (h : loader.Opens manifest text grid events) (before : ω) :
    ∃ calls verdict after, loader.Concludes manifest text before calls verdict after := by
  have hfollows := h.follows_rulesOf []
  rcases houtcome : (loader.rulesOf manifest [] grid events).outcome before with
    ⟨error | rules, after⟩
  · obtain ⟨ran, step, later, middle, split, passed, failed⟩ :=
      Course.error_iff.1 (hfollows.outcome_eq_error_iff.1 houtcome)
    exact ⟨_, _, _, .cell h split passed failed⟩
  · have hcells := hfollows.exists_outcome_eq_ok_iff.1 ⟨rules, houtcome⟩
    obtain ⟨calls, verdict, hconcludes⟩ := Constructs.exists_concludes ⟨h, hcells⟩
    exact ⟨calls, verdict, after, hconcludes⟩

theorem Ready.exists_concludes (h : loader.Ready manifest) (text : List UInt8) (before : ω) :
    ∃ calls verdict after, loader.Concludes manifest text before calls verdict after := by
  cases hread : Grid.read loader.config.delimiter.toNat.toUInt8 text with
  | error error => exact ⟨_, _, _, .grid h hread⟩
  | ok grid =>
      cases hheaders : grid.events.mapM Header.parse with
      | error error =>
          obtain ⟨header, malformed, first⟩ := mapM_eq_error_iff.1 hheaders
          exact ⟨_, _, _, .header h hread first malformed⟩
      | ok events => exact Opens.exists_concludes ⟨h, hread, hheaders⟩ before

/-- Every compilation ends at one of its stages or passes them all. -/
theorem exists_concludes (loader : Loader π ω E) (manifest : Manifest) (text : List UInt8)
    (before : ω) :
    ∃ calls verdict after, loader.Concludes manifest text before calls verdict after := by
  cases hconfig : loader.config.validate with
  | error error => exact ⟨_, _, _, .config hconfig⟩
  | ok _ =>
      rcases forall_not_or_exists_isFirst (loader.registry.hasEvaluator ·.2 = false)
        manifest.evaluators.entries with hevaluators | ⟨entry, hfirst⟩
      rotate_left
      · exact ⟨_, _, _, .evaluatorType hconfig hfirst⟩
      simp only [Bool.not_eq_false] at hevaluators
      rcases forall_not_or_exists_isFirst (loader.registry.hasAction ·.2 = false)
        manifest.actions.entries with hactions | ⟨entry, hfirst⟩
      rotate_left
      · exact ⟨_, _, _, .actionType hconfig hevaluators hfirst⟩
      simp only [Bool.not_eq_false] at hactions
      exact Ready.exists_concludes ⟨hconfig, hevaluators, hactions⟩ text before

theorem journal_of_concludes {journal : ω → List (ComponentKind × String)}
    (hjournal : loader.registry.Journals loader.param journal)
    {calls : List (ComponentKind × String)} {verdict : Except LoadError Unit}
    (h : loader.Concludes manifest text before calls verdict after) :
    journal after = journal before ++ calls := by
  cases h with
  | config _ | evaluatorType _ _ | actionType _ _ _ | grid _ _ | header _ _ _ _ =>
      exact (List.append_nil _).symm
  | cell _ _ passed failed =>
      rw [journal_of_takes hjournal failed, journal_of_course hjournal passed,
        CellStep.calls_append, CellStep.calls_cons, List.append_assoc]
      exact congrArg _ (congrArg _ (List.append_nil _).symm)
  | target constructs _ => exact journal_of_course hjournal constructs.cells
  | defaultPath constructs _ _ => exact journal_of_course hjournal constructs.cells
  | states constructs _ _ => exact journal_of_course hjournal constructs.cells
  | events constructs _ _ _ => exact journal_of_course hjournal constructs.cells
  | machine constructs _ _ _ _ => exact journal_of_course hjournal constructs.cells
  | done constructs _ _ _ _ => exact journal_of_course hjournal constructs.cells

/-- **How a compilation ends.** The first stage that fails decides the error, and where none fails a
machine comes out. If the factories write down that they are called, these calls and no others are
written down, in their order, which is that of the cells row by row and within a row column by
column. -/
theorem compile_concludes (loader : Loader π ω E) (manifest : Manifest) (text : List UInt8)
    (overrides : List (ActionOverride ω E)) (listeners : List (Listener ω E)) (before after : ω) :
    (∀ error, (loader.compile manifest text overrides listeners).outcome before =
        (.error error, after) ↔
      ∃ calls, loader.Concludes manifest text before calls (.error error) after) ∧
    ((∃ definition, (loader.compile manifest text overrides listeners).outcome before =
        (.ok definition, after)) ↔
      ∃ calls, loader.Concludes manifest text before calls (.ok ()) after) ∧
    (∀ journal, loader.registry.Journals loader.param journal → ∀ calls verdict,
      loader.Concludes manifest text before calls verdict after →
        journal after = journal before ++ calls) ∧
    ∀ (grid : Grid) events, ∃ sites, grid.IsInRowOrder events sites ∧
      grid.steps manifest events = sites.flatMap (·.steps manifest) ∧
      grid.transitions manifest events = sites.flatMap (·.transitions manifest) := by
  have hends : ∀ result, (loader.compile manifest text overrides listeners).outcome before =
      (result, after) → ∃ calls, loader.Concludes manifest text before calls
        (result.map fun _ => ()) after := by
    intro result houtcome
    -- there is some conclusion, and since it tells the outcome, it is about this one
    obtain ⟨calls, verdict, last, h⟩ := exists_concludes loader manifest text before
    obtain ⟨_, hsame, rfl⟩ := outcome_of_concludes h overrides listeners
    cases houtcome.symm.trans hsame
    exact ⟨calls, h⟩
  refine ⟨fun error => ⟨hends (.error error), ?_⟩, ⟨?_, ?_⟩, ?_,
    fun grid events => ⟨_, grid.isInRowOrder_sites events, rfl, rfl⟩⟩
  · rintro ⟨calls, h⟩
    obtain ⟨result, houtcome, hresult⟩ := outcome_of_concludes h overrides listeners
    cases result with
    | error other =>
        cases hresult
        exact houtcome
    | ok _ => contradiction
  · rintro ⟨definition, houtcome⟩
    exact hends (.ok definition) houtcome
  · rintro ⟨calls, h⟩
    obtain ⟨result, houtcome, hresult⟩ := outcome_of_concludes h overrides listeners
    cases result with
    | error other => contradiction
    | ok definition => exact ⟨definition, houtcome⟩
  · intro journal hjournal calls verdict h
    exact journal_of_concludes hjournal h

end Loader

/-! ### A machine of drafts without a disk -/

/-- Both rows name components in both of their columns. -/
def disklessText : List UInt8 :=
  ("State,Submit,Decide[lead]\nDraft,[Review/record],[isSound/Review]\n" ++
    "Review,[Draft/record],[isSound/Draft/record][Review/record]\n").toUTF8.data.toList

def disklessGrid : Grid where
  events := ["Submit", "Decide[lead]"]
  rows :=
    [⟨2, "Draft", ["[Review/record]", "[isSound/Review]"]⟩,
      ⟨3, "Review", ["[Draft/record]", "[isSound/Draft/record][Review/record]"]⟩]

/-- The factories write down their calls, and there is room for one action only. -/
def disklessLoader : Loader Unit (List (ComponentKind × String)) Cli.DryRun where
  registry :=
    { evaluators := .ofList
        [("sound", fun _ journal =>
          (.ok ⟨"sound", fun _ world => (true, world)⟩, journal ++ [(.evaluator, "sound")]))]
      actions := .ofList
        [("journal", fun _ journal =>
          (if (.action, "journal") ∈ journal then .error "disk full" else .ok (.idle "journal"),
            journal ++ [(.action, "journal")]))] }
  param := ()

theorem diskless_journals : disklessLoader.registry.Journals disklessLoader.param id := by
  constructor
  · intro type factory hfactory world
    have hmem := NameMap.get?_eq_some_iff.1 hfactory
    cases List.mem_singleton.1 hmem
    rfl
  · intro type factory hfactory world
    have hmem := NameMap.get?_eq_some_iff.1 hfactory
    cases List.mem_singleton.1 hmem
    rfl

theorem diskless_concludes :
    disklessLoader.Concludes draftManifest disklessText []
      [(.action, "journal"), (.evaluator, "sound"), (.action, "journal")]
      (.error (.construction .action "journal" "disk full"))
      [(.action, "journal"), (.evaluator, "sound"), (.action, "journal")] := by
  have hopens : disklessLoader.Opens draftManifest disklessText disklessGrid draftEvents :=
    { ready := ⟨rfl, checkTypes_eq_ok_iff.1 rfl⟩
      read := rfl
      headers := rfl }
  have hsplit : disklessGrid.steps draftManifest draftEvents =
      [.construct .action "record", .construct .evaluator "isSound"] ++
        .construct .action "record" ::
        [.construct .evaluator "isSound", .construct .action "record",
          .construct .action "record"] := rfl
  have hpassed : Course (disklessLoader.Takes draftManifest)
      [.construct .action "record", .construct .evaluator "isSound"] [] (.ok ())
      [(.action, "journal"), (.evaluator, "sound")] :=
    .next (.built rfl rfl rfl) (.next (.built rfl rfl rfl) (.done _))
  have hfailed : disklessLoader.Takes draftManifest (.construct .action "record")
      [(.action, "journal"), (.evaluator, "sound")]
      (.error (.construction .action "journal" "disk full"))
      [(.action, "journal"), (.evaluator, "sound"), (.action, "journal")] := .failed rfl rfl rfl
  exact .cell hopens hsplit hpassed hfailed

/-- The first row is taken with both of its cells before the second row, in which the second action
fails; the last cell is not come to. -/
theorem compile_concludes_diskless :
    (disklessLoader.compile draftManifest disklessText [] []).outcome [] =
      (.error (.construction .action "journal" "disk full"),
        [(.action, "journal"), (.evaluator, "sound"), (.action, "journal")]) ∧
    ∀ calls verdict, disklessLoader.Concludes draftManifest disklessText [] calls verdict
        [(.action, "journal"), (.evaluator, "sound"), (.action, "journal")] →
      calls = [(.action, "journal"), (.evaluator, "sound"), (.action, "journal")] := by
  obtain ⟨herror, -, hcalls, -⟩ := Loader.compile_concludes disklessLoader draftManifest
    disklessText [] [] [] [(.action, "journal"), (.evaluator, "sound"), (.action, "journal")]
  refine ⟨(herror _).2 ⟨_, diskless_concludes⟩, fun calls verdict h => ?_⟩
  exact (hcalls id diskless_journals calls verdict h).symm

end GridMachine
