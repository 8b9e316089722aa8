import GridMachine.Proofs.Meaning
import GridMachine.Proofs.Rearrangement
import GridMachine.Proofs.Resolution
import GridMachine.Proofs.Steadiness
import Mathlib.Logic.Equiv.Basic

/-!
Machines of rearranged grids. If what the factories build does not depend on the world, neither the
order of the rows of a grid nor that of its columns means anything: a grid compiles if it does after
it has been rearranged, and the machine is the same. Only the order within a cell is kept, as that
of the candidates.
-/

namespace GridMachine

variable {π ω E : Type} {loader : Loader π ω E} {manifest : Manifest}
  {overrides : List (ActionOverride ω E)} {columns : Equiv.Perm Nat} {grid grid' : Grid}
  {events events' : List Event} {rules rules' : List (Rule ω E)} {world world' after after' : ω}
  {text text' : List UInt8} {listeners : List (Listener ω E)}

section Steady

variable (hsteady : loader.registry.IsSteady loader.param)
  (hgrid : grid.Rearranged columns grid') (hevents : Moved columns events events')

include hgrid hevents

/-- The cells have rules after they have been rearranged, and so have the empty ones. -/
theorem exists_groups_of_rearranged {groups : List (List (Rule ω E))}
    (h : List.Forall₂ (loader.RealisesSite manifest overrides) (grid.sites events) groups) :
    ∃ groups', List.Forall₂ (loader.RealisesSite manifest overrides) (grid'.sites events')
      groups' := by
  apply exists_forall₂
  intro site hsite
  by_cases hcell : site.cell = ""
  · exact ⟨[], (Loader.realisesSite_iff_of_empty hcell).2 rfl⟩
  · obtain ⟨rules, -, hrules⟩ :=
      exists_left_of_forall₂ h.flip (hgrid.symm.mem_sites hevents.symm hcell hsite)
    exact ⟨rules, hrules⟩

include hsteady

theorem mem_flatten_of_rearranged {groups groups' : List (List (Rule ω E))}
    (h : List.Forall₂ (loader.RealisesSite manifest overrides) (grid.sites events) groups)
    (h' : List.Forall₂ (loader.RealisesSite manifest overrides) (grid'.sites events') groups')
    (world : ω) {rule : Rule ω E} (hrule : rule ∈ groups.flatten) : rule ∈ groups'.flatten := by
  obtain ⟨rules, hrules, hmem⟩ := List.mem_flatten.1 hrule
  obtain ⟨site, hsite, hrealises⟩ := exists_left_of_forall₂ h hrules
  have hcell : site.cell ≠ "" := by
    intro hempty
    rw [(Loader.realisesSite_iff_of_empty hempty).1 hrealises] at hmem
    exact List.not_mem_nil hmem
  obtain ⟨others, hothers, hrealises'⟩ :=
    exists_left_of_forall₂ h'.flip (hgrid.mem_sites hevents hcell hsite)
  rw [hrealises.unique hsteady hrealises' world] at hmem
  exact List.mem_flatten.2 ⟨others, hothers, hmem⟩

theorem checkRules_of_rearranged {groups groups' : List (List (Rule ω E))}
    (h : List.Forall₂ (loader.RealisesSite manifest overrides) (grid.sites events) groups)
    (h' : List.Forall₂ (loader.RealisesSite manifest overrides) (grid'.sites events') groups')
    (world : ω) (hchecked : checkRules manifest grid groups.flatten = .ok ()) :
    checkRules manifest grid' groups'.flatten = .ok () := by
  obtain ⟨htargets, hpath, hstates, hnames⟩ := checkRules_eq_ok_iff.1 hchecked
  have hmem : ∀ state, state ∈ grid.states → state ∈ grid'.states :=
    fun state => hgrid.perm_states.mem_iff.1
  refine checkRules_eq_ok_iff.2 ⟨fun rule hrule => hmem _ (htargets rule ?_),
    fun state hstate => hmem state (hpath state hstate), hgrid.perm_states.nodup_iff.1 hstates,
    (hgrid.headers.map Header.eventName).nodup hnames⟩
  exact mem_flatten_of_rearranged hsteady hgrid.symm hevents.symm h' h world hrule

/-- The rules for a state and an event are those of one cell, wherever it stands. -/
theorem filter_rules_eq_of_rearranged
    (h : loader.Prepares manifest text overrides world grid events rules after)
    (h' : loader.Prepares manifest text' overrides world' grid' events' rules' after')
    (state : State) (event : Event) :
    rules.filter (·.concerns state event) = rules'.filter (·.concerns state event) := by
  by_cases hplace : state.name ∉ grid.states ∨ event.name ∉ events.map Event.name
  · have hplace' : state.name ∉ grid'.states ∨ event.name ∉ events'.map Event.name := by
      rwa [← hgrid.perm_states.mem_iff, ← (hevents.map Event.name).mem_iff]
    rw [h.filter_rules_elsewhere hplace, h'.filter_rules_elsewhere hplace']
  · obtain ⟨hstate, hevent⟩ := not_or.1 hplace
    obtain ⟨row, hrow, hname⟩ := List.mem_map.1 (not_not.1 hstate)
    obtain ⟨row', hrow', hmoved⟩ := hgrid.rows.exists_of_mem hrow
    obtain ⟨known, hknown, hsame⟩ := List.mem_map.1 (not_not.1 hevent)
    obtain ⟨column, hcolumn⟩ := List.mem_iff_getElem?.1 hknown
    have hcolumn' := (hevents column).trans hcolumn
    have hsite := h.realisesSite_filter hrow hcolumn hsame.symm
    have hsite' := h'.realisesSite_filter hrow' hcolumn' hsame.symm
    rw [hmoved.state, hmoved.cells] at hsite'
    have hstate : state = ⟨row.state⟩ := congrArg State.mk hname.symm
    rw [hstate]
    exact hsite.unique hsteady hsite' world

end Steady

/-- All stages pass after a table has been rearranged, and the rules make the same matrix. -/
theorem exists_prepares_of_rearranged (hsteady : loader.registry.IsSteady loader.param)
    (htexts : ∀ delimiter, loader.config.delimiterByte = .ok delimiter →
      Record.TableRearranged (Grid.records delimiter text) (Grid.records delimiter text'))
    (h : loader.Prepares manifest text overrides world grid events rules after) (world' : ω) :
    ∃ grid' events' rules' after',
      loader.Prepares manifest text' overrides world' grid' events' rules' after' ∧
        Matrix.ofRules rules' = Matrix.ofRules rules := by
  obtain ⟨delimiter, hdelimiter, hread⟩ := h.read
  obtain ⟨columns, grid', hread', hgrid⟩ :=
    Grid.exists_read_of_rearranged (htexts delimiter hdelimiter) hread
  obtain ⟨events', hheaders', hevents⟩ := hgrid.headers.mapM h.headers
  obtain ⟨groups, rfl, hgroups⟩ := h.exists_groups
  obtain ⟨groups', hgroups'⟩ := exists_groups_of_rearranged hgrid hevents hgroups
  obtain ⟨after', hcells'⟩ := Loader.yields_rulesOf hsteady hgroups' world'
  have h' : loader.Prepares manifest text' overrides world' grid' events' groups'.flatten after' :=
    { h with
      read := ⟨delimiter, hdelimiter, hread'⟩
      headers := hheaders'
      cells := hcells'
      checked := checkRules_of_rearranged hsteady hgrid hevents hgroups hgroups' world h.checked }
  refine ⟨grid', events', groups'.flatten, after', h', ?_⟩
  apply Matrix.ofRules_eq_of_filter_eq
  intro state event
  exact (filter_rules_eq_of_rearranged hsteady hgrid hevents h h' state event).symm

theorem Definition.ofRules_eq_of_matrix_eq (h : Matrix.ofRules rules = Matrix.ofRules rules')
    (defaultPath : Option (List String)) :
    ofRules rules defaultPath listeners = ofRules rules' defaultPath listeners := by
  simp only [ofRules, assemble, h]

theorem Loader.exists_compile_of_rearranged (hsteady : loader.registry.IsSteady loader.param)
    (htexts : ∀ delimiter, loader.config.delimiterByte = .ok delimiter →
      Record.TableRearranged (Grid.records delimiter text) (Grid.records delimiter text'))
    {definition : Definition ω E}
    (h : (loader.compile manifest text overrides listeners).outcome world =
      (.ok definition, after)) (world' : ω) :
    ∃ after', (loader.compile manifest text' overrides listeners).outcome world' =
      (.ok definition, after') := by
  obtain ⟨grid, events, rules, hprepares, hrules⟩ := outcome_compile_eq_ok_iff.1 h
  obtain ⟨grid', events', rules', after', hprepares', hmatrix⟩ :=
    exists_prepares_of_rearranged hsteady htexts hprepares world'
  refine ⟨after', outcome_compile_eq_ok_iff.2 ⟨grid', events', rules', hprepares', ?_⟩⟩
  rw [Definition.ofRules_eq_of_matrix_eq hmatrix, hrules]

/-- **The order of rows and columns means nothing.** A rearranged table compiles exactly if the table
does, and the machine is the same to the last candidate. -/
theorem Loader.compile_eq_ok_iff_of_rearranged (hsteady : loader.registry.IsSteady loader.param)
    (htexts : ∀ delimiter, loader.config.delimiterByte = .ok delimiter →
      Record.TableRearranged (Grid.records delimiter text) (Grid.records delimiter text'))
    (definition : Definition ω E) (world world' : ω) :
    (∃ after, (loader.compile manifest text overrides listeners).outcome world =
        (.ok definition, after)) ↔
      ∃ after', (loader.compile manifest text' overrides listeners).outcome world' =
        (.ok definition, after') := by
  constructor
  · rintro ⟨after, h⟩
    exact Loader.exists_compile_of_rearranged hsteady htexts h world'
  · rintro ⟨after', h'⟩
    exact Loader.exists_compile_of_rearranged hsteady
      (fun delimiter hdelimiter => (htexts delimiter hdelimiter).symm) h' world

/-! ### A table that is turned around -/

/-- Factories that write down that they were called. -/
def journalLoader : Loader Unit (List String) Cli.DryRun where
  registry :=
    { evaluators := .ofList
        [("sound", fun _ calls => (.ok (.recording "sound" true), calls ++ ["sound"]))]
      actions := .ofList [("journal", fun _ calls => (.ok (.idle "journal"), calls ++ ["journal"]))] }
  param := ()

def turnText : List UInt8 :=
  ("State,Submit,Decide[lead]\nDraft,[Review/record]\n" ++
    "Review,,[isSound/Draft/record][Review/record]\n").toUTF8.data.toList

/-- The rows and the columns are swapped, and the last row is padded. -/
def turnedText : List UInt8 :=
  ("State,Decide[lead],Submit\nReview,[isSound/Draft/record][Review/record],\n" ++
    "Draft,,[Review/record]\n").toUTF8.data.toList

theorem Record.rearranged_swap {record other : Record} (hfirst : other.field 0 = record.field 0)
    (hleft : other.field 2 = record.field 1) (hright : other.field 1 = record.field 2)
    (hrecord : record.fields.length ≤ 3) (hother : other.fields.length ≤ 3) :
    record.Rearranged (Equiv.swap 0 1) other := by
  refine ⟨hfirst, fun column => ?_⟩
  match column with
  | 0 => exact hleft
  | 1 => exact hright
  | column + 2 =>
      have hfixed : Equiv.swap 0 1 (column + 2) = column + 2 :=
        Equiv.swap_apply_of_ne_of_ne (by omega) (by omega)
      rw [hfixed, Record.field, Record.field, List.getElem?_eq_none (by omega),
        List.getElem?_eq_none (by omega)]

theorem tableRearranged_turned :
    Record.TableRearranged (Grid.records 44 turnText) (Grid.records 44 turnedText) := by
  have hrecords : Grid.records 44 turnText =
      [some ⟨1, ["State", "Submit", "Decide[lead]"]⟩, some ⟨2, ["Draft", "[Review/record]"]⟩,
        some ⟨3, ["Review", "", "[isSound/Draft/record][Review/record]"]⟩] := rfl
  have hturned : Grid.records 44 turnedText =
      [some ⟨1, ["State", "Decide[lead]", "Submit"]⟩,
        some ⟨2, ["Review", "[isSound/Draft/record][Review/record]", ""]⟩,
        some ⟨3, ["Draft", "", "[Review/record]"]⟩] := rfl
  rw [hrecords, hturned]
  refine .intro (Equiv.swap 0 1) (fun column hcolumn => ?_) rfl
    (Record.rearranged_swap rfl rfl rfl (by decide) (by decide)) ⟨_, .swap _ _ _, ?_⟩
  · have hlt : 2 ≤ column := Nat.le_of_succ_le_succ hcolumn
    exact Equiv.swap_apply_of_ne_of_ne (by omega) (by omega)
  · exact .cons (.some (Record.rearranged_swap rfl rfl rfl (by decide) (by decide)))
      (.cons (.some (Record.rearranged_swap rfl rfl rfl (by decide) (by decide))) .nil)

def turnGrid : Grid where
  events := ["Submit", "Decide[lead]"]
  rows :=
    [⟨2, "Draft", ["[Review/record]"]⟩, ⟨3, "Review", ["", "[isSound/Draft/record][Review/record]"]⟩]

def turnRules : List (Rule (List String) Cli.DryRun) :=
  [ { event := .unrestricted "Submit", source := ⟨"Draft"⟩, target := .fixed ⟨"Review"⟩
      actions := [.idle "journal"] },
    { event := .restricted "Decide" ["lead"], source := ⟨"Review"⟩, target := .fixed ⟨"Draft"⟩
      evaluator := some (.recording "sound" true), actions := [.idle "journal"] },
    { event := .restricted "Decide" ["lead"], source := ⟨"Review"⟩, target := .fixed ⟨"Review"⟩
      actions := [.idle "journal"] } ]

theorem turn_prepares :
    journalLoader.Prepares draftManifest turnText [] [] turnGrid draftEvents turnRules
      ["journal", "sound", "journal", "journal"] where
  config := rfl
  types := rfl
  read := ⟨44, rfl, rfl⟩
  headers := rfl
  cells := rfl
  checked := rfl

theorem isSteady_journalLoader : journalLoader.registry.IsSteady journalLoader.param where
  evaluators type factory hfactory _ _ := by
    cases List.mem_singleton.1 (NameMap.get?_eq_some_iff.1 hfactory)
    rfl
  actions type factory hfactory _ _ := by
    cases List.mem_singleton.1 (NameMap.get?_eq_some_iff.1 hfactory)
    rfl

/-- Both tables compile to one machine, though the calls of the factories have another order. -/
theorem compile_turned :
    ∃ definition after,
      (journalLoader.compile draftManifest turnText [] []).outcome [] =
        (.ok definition, ["journal", "sound", "journal", "journal"]) ∧
      (journalLoader.compile draftManifest turnedText [] []).outcome [] =
        (.ok definition, after) := by
  have htexts : ∀ delimiter, journalLoader.config.delimiterByte = .ok delimiter →
      Record.TableRearranged (Grid.records delimiter turnText)
        (Grid.records delimiter turnedText) := by
    intro delimiter hdelimiter
    cases hdelimiter
    exact tableRearranged_turned
  have hcompile : (journalLoader.compile draftManifest turnText [] []).outcome [] =
      (.ok (.unchecked turnRules draftManifest.defaultPath []),
        ["journal", "sound", "journal", "journal"]) :=
    outcome_compile_eq_ok_iff.2 ⟨_, _, _, turn_prepares, rfl⟩
  obtain ⟨after, hturned⟩ :=
    (Loader.compile_eq_ok_iff_of_rearranged isSteady_journalLoader htexts _ [] []).1 ⟨_, hcompile⟩
  exact ⟨_, after, hcompile, hturned⟩

end GridMachine
