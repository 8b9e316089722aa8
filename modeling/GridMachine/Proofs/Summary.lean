import GridMachine.Proofs.DefaultPath
import GridMachine.Proofs.DryRuns
import GridMachine.Proofs.GridRecords
import GridMachine.Proofs.RuleQueries

/-!
The summary of a machine beside its listings. The numbers of states and events are those of the
items that are listed, of which none is listed twice, and the number of transitions is that of the
cells of the grid taken together. A path is listed with the number of its states, and printed with
as many if it has any; of an empty one it is printed that there is none.
-/

namespace GridMachine

namespace Grid

/-- The cells of all rows. -/
def cells (grid : Grid) : List String := grid.rows.flatMap GridRow.cells

variable {grid : Grid} {events : List Event}

/-- The cells have places if no row is longer than the header. -/
theorem map_cell_sites (h : ∀ row ∈ grid.rows, row.cells.length ≤ events.length) :
    (grid.sites events).map Site.cell = grid.cells := by
  unfold sites cells
  rw [List.map_flatMap]
  refine List.flatMap_congr fun row hrow => ?_
  rw [List.map_zipWith, ← List.map_uncurry_zip_eq_zipWith]
  exact List.map_fst_zip (h row hrow)

end Grid

variable {π ω E : Type} {loader : Loader π ω E} {manifest : Manifest}
  {overrides : List (ActionOverride ω E)}

/-- The rules of cells are as many as the transitions that the cells describe. -/
theorem exists_described {sites : List Site} {groups : List (List (Rule ω E))}
    (h : List.Forall₂ (loader.RealisesSite manifest overrides) sites groups) :
    ∃ described, (sites.map Site.cell).mapM (Cell.parse manifest) = .ok described ∧
      described.flatten.length = groups.flatten.length := by
  induction h with
  | nil => exact ⟨[], rfl, rfl⟩
  | @cons site rules sites groups hsite _ ih =>
      obtain ⟨transitions, hparse, hrules⟩ := hsite
      obtain ⟨described, hdescribed, hlength⟩ := ih
      refine ⟨transitions :: described, ?_, ?_⟩
      · rw [List.map_cons, List.mapM_cons, hparse, hdescribed]
        rfl
      · rw [List.flatten_cons, List.flatten_cons, List.length_append, List.length_append, hlength,
          hrules.length_eq]

theorem Definition.nodup_states (definition : Definition ω E) : definition.states.Nodup :=
  State.nodup_map_mk (NameMap.nodup_distinct _)

namespace Cli

variable {files : Files} {path : String} {config : Config} {passes : List String}
  {session : Session}

/-- The machine of a session has as many transitions as the cells of its grid describe. -/
theorem Session.MadeFrom.transitionCount_eq {grid : Grid} {events : List Event}
    {rules : List (Rule Unit DryRun)}
    (h : session.MadeFrom files config passes grid events rules) :
    ∃ described, grid.cells.mapM (Cell.parse session.manifest) = .ok described ∧
      described.flatten.length = session.definition.transitionCount := by
  obtain ⟨text, hprepares⟩ := h.prepares
  obtain ⟨delimiter, -, hread⟩ := hprepares.read
  obtain ⟨groups, rfl, hgroups⟩ := hprepares.exists_groups
  obtain ⟨described, hdescribed, hlength⟩ := exists_described hgroups
  have hwidth : grid.events.length = events.length :=
    (InOrder.mapM_eq_ok_iff.1 hprepares.headers).length_eq
  refine ⟨described, ?_, ?_⟩
  · rw [← hdescribed, Grid.map_cell_sites]
    intro row hrow
    rw [← hwidth]
    exact Grid.length_cells_of_read hread hrow
  · rw [hlength, Definition.transitionCount, h.matrix_eq,
      (Matrix.perm_transitions_ofRules _).length_eq, List.length_map]

/-! ### Paths -/

namespace Session

/-- Whether the summary lists a path of `count` states under a name. -/
def ListsPath (session : Session) (files : Files) (name : String) (count : Nat) : Prop :=
  ∃ manifest states events transitions paths,
    session.answer files .check = .ok (.summary manifest states events transitions paths) ∧
      (name, count) ∈ paths

/-- Whether a path of `count` states is printed for a name. -/
def PrintsPath (session : Session) (files : Files) (name : String) (count : Nat) : Prop :=
  ∃ states : List State, states.length = count ∧
    session.answer files (.path name) = .ok (.path name states) ∧
    ∀ isColoured, session.execute files isColoured (.path name) =
      .ok (Text.joinWith " -> " (states.map State.name))

/-- Whether it is printed that there is no path of a name. -/
def PrintsNoPath (session : Session) (files : Files) (name : String) : Prop :=
  ∀ isColoured, session.execute files isColoured (.path name) =
    .ok (paint isColoured .yellow ("No path named " ++ paint isColoured .cyan name))

variable {name : String} {count : Nat}

theorem listsPath_iff : session.ListsPath files name count ↔
    (session.definition.paths.get? name).map List.length = some count := by
  simp only [Option.map_eq_some_iff, NameMap.get?_eq_some_iff]
  constructor
  · rintro ⟨_, _, _, _, _, ⟨⟩, hmem⟩
    obtain ⟨⟨known, states⟩, hstates, ⟨⟩⟩ := List.mem_map.1 hmem
    exact ⟨states, hstates, rfl⟩
  · rintro ⟨states, hmem, rfl⟩
    exact ⟨_, _, _, _, _, rfl, List.mem_map.2 ⟨(name, states), hmem, rfl⟩⟩

theorem execute_path (isColoured : Bool) : session.execute files isColoured (.path name) =
    .ok (if (session.definition.path name).isEmpty then
        paint isColoured .yellow ("No path named " ++ paint isColoured .cyan name)
      else Text.joinWith " -> " ((session.definition.path name).map State.name)) :=
  rfl

theorem printsNoPath_of_nil (h : session.definition.path name = []) :
    session.PrintsNoPath files name := by
  intro isColoured
  rw [execute_path, h]
  rfl

theorem printsPath_iff : session.PrintsPath files name count ↔
    (session.definition.path name).length = count ∧ count ≠ 0 := by
  constructor
  · rintro ⟨states, hlength, hanswer, htext⟩
    cases hanswer
    refine ⟨hlength, ?_⟩
    rintro rfl
    -- the text of no states is empty, and that of the notice is not
    have hpath := List.length_eq_zero_iff.1 hlength
    have hnone : session.PrintsNoPath files name := printsNoPath_of_nil hpath
    have hnotice := (hnone false).symm.trans (htext false)
    rw [hpath] at hnotice
    have hempty : "No path named " ++ name = "" := Except.ok.inj hnotice
    simp at hempty
  · rintro ⟨hlength, hcount⟩
    refine ⟨session.definition.path name, hlength, rfl, fun isColoured => ?_⟩
    have hnonempty : ¬(session.definition.path name).isEmpty := by
      rw [List.isEmpty_iff_length_eq_zero, hlength]
      exact hcount
    rw [execute_path, if_neg hnonempty]

/-- What is listed is printed, but for the empty paths. -/
theorem printsPath_iff_listsPath : session.PrintsPath files name count ↔
    session.ListsPath files name count ∧ count ≠ 0 := by
  rw [printsPath_iff, listsPath_iff, Definition.path]
  cases session.definition.paths.get? name with
  | none => simp [eq_comm]
  | some states => simp

theorem MadeFrom.listsPath_iff {grid : Grid} {events : List Event}
    {rules : List (Rule Unit DryRun)}
    (h : session.MadeFrom files config passes grid events rules) :
    session.ListsPath files name count ↔
      name = "default" ∧ session.manifest.defaultPath.map List.length = some count := by
  rw [Session.listsPath_iff, h.definition, Definition.get?_paths_unchecked]
  rw [Definition.defaultPathName]
  split
  next hname => simp [hname, Option.map_map, Function.comp_def]
  next hname => simp [hname]

/-- **The summary agrees with the listings.** It has the number of the states and of the events that
are listed, none of them twice, and of the transitions in all cells of the grid. A path that has
states is printed exactly if it is listed, with as many states; for every other name it is printed
that there is no path, also for an empty default path, the only other one that is listed. -/
theorem summary_agrees (h : Session.load files path config passes = .ok session) :
    (∃ states events transitions paths,
      session.answer files .check =
        .ok (.summary session.manifest states events transitions paths) ∧
      (∃ found, session.answer files .states = .ok (.states found) ∧ found.Nodup ∧
        found.length = states) ∧
      (∃ found, session.answer files (.events none []) = .ok (.events found) ∧
        (found.map Event.name).Nodup ∧ found.length = events) ∧
      ∃ grid headers described, session.Reads files config grid headers ∧
        grid.cells.mapM (Cell.parse session.manifest) = .ok described ∧
        described.flatten.length = transitions) ∧
    (∀ name count, session.PrintsPath files name count ↔
      session.ListsPath files name count ∧ count ≠ 0) ∧
    (∀ name, (∀ count, ¬session.PrintsPath files name count) → session.PrintsNoPath files name) ∧
    ∀ name count, session.ListsPath files name count ↔
      name = "default" ∧ session.manifest.defaultPath.map List.length = some count := by
  obtain ⟨grid, headers, rules, hmade⟩ := Session.exists_madeFrom h
  obtain ⟨described, hdescribed, hlength⟩ := hmade.transitionCount_eq
  refine ⟨?_, fun _ _ => printsPath_iff_listsPath, ?_, fun _ _ => hmade.listsPath_iff⟩
  · refine ⟨_, _, _, _, rfl, ⟨_, rfl, session.definition.nodup_states, rfl⟩,
      ⟨_, rfl, session.definition.nodup_events, rfl⟩, ?_⟩
    exact ⟨grid, headers, described, hmade.reads, hdescribed, hlength⟩
  · intro name hnone
    apply printsNoPath_of_nil
    by_contra hpath
    exact hnone _ (printsPath_iff.2 ⟨rfl, mt List.length_eq_zero_iff.1 hpath⟩)

end Session

/-! ### A loop -/

/-- A state that is left only for itself, and a path through it. -/
def loopManifest (path : List String) : Manifest where
  definition := "loop.csv"
  defaultPath := some path

def loopText : List UInt8 := "State,Go,Stay\nA,A,A\n".toUTF8.data.toList

def loopManifestText (path : String) : List UInt8 :=
  ("definition: loop.csv\ndefaultPath: " ++ path ++ "\n").toUTF8.data.toList

def loopFiles (path : String) : Files :=
  FileTree.read ⟨[], [(["loop.yaml"], loopManifestText path), (["loop.csv"], loopText)]⟩

def loopGrid : Grid where
  events := ["Go", "Stay"]
  rows := [⟨2, "A", ["A", "A"]⟩]

def loopRules : List (Rule Unit DryRun) :=
  [{ event := .unrestricted "Go", source := ⟨"A"⟩, target := .fixed ⟨"A"⟩ },
    { event := .unrestricted "Stay", source := ⟨"A"⟩, target := .fixed ⟨"A"⟩ }]

def loopSession (path : List String) : Session :=
  ⟨loopManifest path, .unchecked loopRules (some path) []⟩

section Loop

variable {path : List String} (hpath : ∀ state ∈ path, state = "A")

include hpath

theorem loop_prepares : (Session.loader (loopManifest path) {} []).Prepares (loopManifest path)
    loopText [] () loopGrid [.unrestricted "Go", .unrestricted "Stay"] loopRules () where
  config := rfl
  types := rfl
  read := ⟨44, rfl, rfl⟩
  headers := rfl
  cells := rfl
  checked := by
    refine checkRules_eq_ok_iff.2 ⟨by decide, fun state hstate => ?_, by decide, by decide⟩
    rw [hpath state hstate]
    decide

theorem load_loop {written : String}
    (hmanifest : Manifest.ofBytes (loopManifestText written) = .ok (loopManifest path)) :
    Session.load (loopFiles written) "loop.yaml" {} [] = .ok (loopSession path) := by
  have hrules :
      Definition.ofRules loopRules (some path) [] = .ok (loopSession path).definition := by
    refine Definition.ofRules_eq_ok_iff.2 ⟨fun state hstate => ?_, rfl⟩
    rw [hpath state hstate]
    exact ⟨_, List.mem_cons_self, .inl rfl⟩
  have hcompile : ((Session.loader (loopManifest path) {} []).compile (loopManifest path) loopText
      [] []).outcome () = (.ok (loopSession path).definition, ()) :=
    outcome_compile_eq_ok_iff.2 ⟨_, _, _, loop_prepares hpath, hrules⟩
  have hplace : ({} : Config).resolve? (loopFiles written) "loop.csv" = some "./loop.csv" := rfl
  have hload : ((Session.loader (loopManifest path) {} []).load (loopFiles written)
      (loopManifestText written) [] []).outcome () = (.ok (loopSession path).definition, ()) :=
    outcome_load_eq_ok_iff.2 ⟨_, "./loop.csv", loopText, rfl, hmanifest, hplace, rfl, hcompile⟩
  exact Session.load_eq_ok_iff.2
    ⟨loopManifestText written, rfl, hmanifest, congrArg Prod.fst hload⟩

end Loop

set_option maxRecDepth 4000 in
theorem ofBytes_loop :
    Manifest.ofBytes (loopManifestText "[A, A]") = .ok (loopManifest ["A", "A"]) := by
  rfl

set_option maxRecDepth 4000 in
theorem ofBytes_emptyPath : Manifest.ofBytes (loopManifestText "[]") = .ok (loopManifest []) := by
  rfl

/-- The one state is listed once, and the path leads through it twice. -/
theorem summary_agrees_loop :
    Session.load (loopFiles "[A, A]") "loop.yaml" {} [] = .ok (loopSession ["A", "A"]) ∧
    (∃ transitions paths, (loopSession ["A", "A"]).answer (loopFiles "[A, A]") .check =
      .ok (.summary (loopManifest ["A", "A"]) 1 2 transitions paths)) ∧
    (loopSession ["A", "A"]).PrintsPath (loopFiles "[A, A]") "default" 2 ∧
    (loopSession ["A", "A"]).PrintsNoPath (loopFiles "[A, A]") "detour" := by
  have hload : Session.load (loopFiles "[A, A]") "loop.yaml" {} [] = .ok (loopSession ["A", "A"]) :=
    load_loop (by simp) ofBytes_loop
  obtain ⟨⟨states, events, transitions, paths, hcheck, ⟨found, hfound, -, rfl⟩,
    ⟨shown, hshown, -, rfl⟩, -⟩, hprints, hnotice, hlists⟩ := Session.summary_agrees hload
  cases hfound
  cases hshown
  have hpath := (hprints "default" 2).2 ⟨(hlists _ _).2 ⟨rfl, rfl⟩, nofun⟩
  refine ⟨hload, ⟨transitions, paths, hcheck⟩, hpath, ?_⟩
  apply hnotice
  intro count hprinted
  obtain ⟨hname, -⟩ := (hlists _ _).1 ((hprints _ _).1 hprinted).1
  revert hname
  decide

/-- A default path without states is listed, and it is printed that there is none. -/
theorem empty_path_listed_not_printed :
    Session.load (loopFiles "[]") "loop.yaml" {} [] = .ok (loopSession []) ∧
    (loopSession []).ListsPath (loopFiles "[]") "default" 0 ∧
    ¬(loopSession []).PrintsPath (loopFiles "[]") "default" 0 ∧
    (loopSession []).execute (loopFiles "[]") false (.path "default") =
      .ok "No path named default" := by
  refine ⟨load_loop (by simp) ofBytes_emptyPath, Session.listsPath_iff.2 rfl, ?_, rfl⟩
  intro hprinted
  exact (Session.printsPath_iff.1 hprinted).2 rfl

end Cli

end GridMachine
