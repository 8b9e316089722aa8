import GridMachine.Loader.Compile
import Mathlib.Data.List.Nodup
import Mathlib.Data.List.Perm.Lattice

/-!
The cells of a grid by their places. They are listed row by row, and within a row column by column.
Where no state has two rows and no event has two columns, there is at most one cell for a state and
an event: that of the row of the state in the column of the event, if the row reaches that far.
-/

namespace GridMachine

/-- The cell of a row in a column, which is empty where the row does not reach it. -/
def GridRow.cell (row : GridRow) (column : Nat) : String := row.cells[column]?.getD ""

/-- The places of the cells of a row. -/
def GridRow.sites (row : GridRow) (events : List Event) : List Site :=
  row.cells.zipWith (fun cell event => ⟨event, ⟨row.state⟩, cell⟩) events

/-- The state and the name of the event of a cell. -/
def Site.place (site : Site) : State × String := (site.source, site.event.name)

/-- Whether the cell is for the state and the event, whatever the roles. -/
def Site.concerns (site : Site) (state : State) (event : Event) : Bool :=
  site.source = state && site.event.isSame event

theorem Site.concerns_iff {site : Site} {state : State} {event : Event} :
    site.concerns state event = true ↔ site.source = state ∧ site.event.name = event.name := by
  simp [concerns, Event.isSame]

namespace GridRow

variable {row : GridRow} {events : List Event} {site : Site}

/-- The number of a cell in its row is that of its column. -/
theorem getElem?_sites_eq_some {column : Nat} :
    (row.sites events)[column]? = some site ↔
      site.source = ⟨row.state⟩ ∧
        events[column]? = some site.event ∧ row.cells[column]? = some site.cell := by
  rw [sites, List.getElem?_zipWith_eq_some]
  constructor
  · rintro ⟨cell, event, hcell, hevent, rfl⟩
    exact ⟨rfl, hevent, hcell⟩
  · rintro ⟨hsource, hevent, hcell⟩
    refine ⟨site.cell, site.event, hcell, hevent, ?_⟩
    rw [← hsource]

theorem mem_sites :
    site ∈ row.sites events ↔
      site.source = ⟨row.state⟩ ∧
        ∃ column : Nat,
          events[column]? = some site.event ∧ row.cells[column]? = some site.cell := by
  rw [List.mem_iff_getElem?]
  simp only [getElem?_sites_eq_some, exists_and_left]

theorem events_sites_sublist : ((row.sites events).map Site.event).Sublist events := by
  unfold sites
  induction events generalizing row with
  | nil => simp
  | cons event events ih =>
      obtain ⟨line, state, cells⟩ := row
      cases cells with
      | nil => simp
      | cons cell cells => exact (@ih ⟨line, state, cells⟩).cons_cons event

theorem nodup_places_sites (hevents : (events.map Event.name).Nodup) :
    ((row.sites events).map Site.place).Nodup := by
  apply List.Nodup.of_map Prod.snd
  have hsublist : ((row.sites events).map Site.event).Sublist events := events_sites_sublist
  rw [List.map_map]
  have hnames := hevents.sublist (hsublist.map Event.name)
  rw [List.map_map] at hnames
  exact hnames

end GridRow

namespace Grid

variable {grid : Grid} {events : List Event} {site : Site}

theorem mem_sites :
    site ∈ grid.sites events ↔ ∃ row ∈ grid.rows, site.source = ⟨row.state⟩ ∧
      ∃ column : Nat, events[column]? = some site.event ∧ row.cells[column]? = some site.cell := by
  simp only [← GridRow.mem_sites]
  exact List.mem_flatMap

theorem source_of_mem_sites (hsite : site ∈ grid.sites events) :
    site.source.name ∈ grid.states := by
  obtain ⟨row, hrow, hsource, -⟩ := mem_sites.1 hsite
  rw [hsource]
  exact List.mem_map_of_mem hrow

theorem event_of_mem_sites (hsite : site ∈ grid.sites events) : site.event ∈ events := by
  obtain ⟨-, -, -, column, hevent, -⟩ := mem_sites.1 hsite
  exact List.mem_of_getElem? hevent

/-! ### The order of the cells -/

/-- Whether a cell stands in a row and a column, which are numbered from 0. -/
def HasCell (grid : Grid) (events : List Event) (place : Nat × Nat) (site : Site) : Prop :=
  ∃ row, grid.rows[place.1]? = some row ∧ site.source = ⟨row.state⟩ ∧
    events[place.2]? = some site.event ∧ row.cells[place.2]? = some site.cell

/-- Whether cells are those of a grid, row by row and within a row column by column. -/
def IsInRowOrder (grid : Grid) (events : List Event) (sites : List Site) : Prop :=
  ∃ placed : List ((Nat × Nat) × Site), placed.map Prod.snd = sites ∧
    placed.Pairwise (fun earlier later => Prod.Lex (· < ·) (· < ·) earlier.1 later.1) ∧
    ∀ place site, (place, site) ∈ placed ↔ grid.HasCell events place site

/-- The cells of a grid with the numbers of their rows and columns. -/
def placedSites (grid : Grid) (events : List Event) : List ((Nat × Nat) × Site) :=
  grid.rows.zipIdx.flatMap fun (row, i) =>
    (row.sites events).zipIdx.map fun (site, j) => ((i, j), site)

theorem map_snd_placedSites : (grid.placedSites events).map Prod.snd = grid.sites events := by
  have hrow : ∀ (row : GridRow) (i : Nat),
      ((row.sites events).zipIdx.map fun (site, j) => ((i, j), site)).map Prod.snd =
        row.sites events := by
    intro row i
    rw [List.map_map]
    exact List.zipIdx_map_fst 0 _
  change _ = grid.rows.flatMap (GridRow.sites · events)
  conv_rhs => rw [← List.zipIdx_map_fst 0 grid.rows, List.flatMap_map]
  unfold placedSites
  simp only [List.map_flatMap, hrow]

theorem pairwise_placedSites : (grid.placedSites events).Pairwise
    fun earlier later => Prod.Lex (· < ·) (· < ·) earlier.1 later.1 := by
  have hascends : ∀ {α : Type} (xs : List α), xs.zipIdx.Pairwise (·.2 < ·.2) := by
    intro α xs
    rw [← List.pairwise_map, List.zipIdx_map_snd]
    exact List.pairwise_lt_range'
  unfold placedSites
  rw [List.pairwise_flatMap]
  constructor
  · rintro ⟨row, i⟩ -
    rw [List.pairwise_map]
    exact (hascends _).imp fun hcolumns => .right i hcolumns
  · refine (hascends _).imp fun hrows => ?_
    intro earlier hearlier later hlater
    obtain ⟨⟨site, j⟩, -, rfl⟩ := List.mem_map.1 hearlier
    obtain ⟨⟨site', j'⟩, -, rfl⟩ := List.mem_map.1 hlater
    exact .left j j' hrows

theorem mem_placedSites {place : Nat × Nat} :
    (place, site) ∈ grid.placedSites events ↔ grid.HasCell events place site := by
  obtain ⟨i, j⟩ := place
  unfold placedSites HasCell
  simp only [List.mem_flatMap, List.mem_map, Prod.exists, List.mem_zipIdx_iff_getElem?,
    GridRow.getElem?_sites_eq_some, Prod.mk.injEq]
  constructor
  · rintro ⟨row, _, hrow, _, _, hsite, ⟨rfl, rfl⟩, rfl⟩
    exact ⟨row, hrow, hsite⟩
  · rintro ⟨row, hrow, hsite⟩
    exact ⟨row, i, hrow, site, j, hsite, ⟨rfl, rfl⟩, rfl⟩

/-- **The cells are listed row by row and within a row column by column.** -/
theorem isInRowOrder_sites (grid : Grid) (events : List Event) :
    grid.IsInRowOrder events (grid.sites events) :=
  ⟨grid.placedSites events, map_snd_placedSites, pairwise_placedSites, fun _ _ => mem_placedSites⟩

/-! ### The cells for a state and an event -/

/-- No two cells have the same place. -/
theorem nodup_places_sites (hstates : grid.states.Nodup)
    (hevents : (events.map Event.name).Nodup) :
    ((grid.sites events).map Site.place).Nodup := by
  change ((grid.rows.flatMap (GridRow.sites · events)).map Site.place).Nodup
  rw [List.map_flatMap, List.nodup_flatMap]
  refine ⟨fun row _ => GridRow.nodup_places_sites hevents, ?_⟩
  refine (List.pairwise_map.1 hstates).imp ?_
  intro row other hne place hplace hother
  obtain ⟨site, hsite, rfl⟩ := List.mem_map.1 hplace
  obtain ⟨site', hsite', heq⟩ := List.mem_map.1 hother
  have hsource : site'.source = site.source := congrArg Prod.fst heq
  rw [(GridRow.mem_sites.1 hsite).1, (GridRow.mem_sites.1 hsite').1] at hsource
  exact hne (congrArg State.name hsource).symm

/-- Columns whose events have the same name are the same. -/
theorem column_eq_of_name_eq (hevents : (events.map Event.name).Nodup) {column column' : Nat}
    {event event' : Event} (hcolumn : events[column]? = some event)
    (hcolumn' : events[column']? = some event') (hname : event.name = event'.name) :
    column = column' := by
  have hlength : column < (events.map Event.name).length := by
    rw [List.length_map]
    exact (List.getElem?_eq_some_iff.1 hcolumn).1
  apply (List.getElem?_inj hlength hevents).1
  rw [List.getElem?_map, List.getElem?_map, hcolumn, hcolumn']
  exact congrArg some hname

variable (hstates : grid.states.Nodup) (hevents : (events.map Event.name).Nodup) {row : GridRow}
  (hrow : row ∈ grid.rows) {column : Nat} {event asked : Event}
  (hcolumn : events[column]? = some event) (hname : asked.name = event.name)

include hstates hevents hrow hcolumn hname

theorem mem_filter_sites :
    site ∈ (grid.sites events).filter (·.concerns ⟨row.state⟩ asked) ↔
      ∃ cell, row.cells[column]? = some cell ∧ Site.mk event ⟨row.state⟩ cell = site := by
  rw [List.mem_filter, Site.concerns_iff, mem_sites]
  constructor
  · rintro ⟨⟨row', hrow', hsource', column', hcolumn', hcell'⟩, hsource, hsame⟩
    -- the names of the state and the event each leave one row and one column
    have hrows : row' = row := by
      apply List.inj_on_of_nodup_map hstates hrow' hrow
      exact congrArg State.name (hsource'.symm.trans hsource)
    have hcolumns : column' = column :=
      column_eq_of_name_eq hevents hcolumn' hcolumn (hsame.trans hname)
    subst hrows hcolumns
    have hevent : event = site.event := Option.some.inj (hcolumn.symm.trans hcolumn')
    refine ⟨site.cell, hcell', ?_⟩
    rw [hevent, ← hsource]
  · rintro ⟨cell, hcell, rfl⟩
    exact ⟨⟨row, hrow, rfl, column, hcolumn, hcell⟩, rfl, hname.symm⟩

/-- **The only cell for a state and an event is that of their row and column.** -/
theorem filter_sites :
    (grid.sites events).filter (·.concerns ⟨row.state⟩ asked) =
      (row.cells[column]?.map (Site.mk event ⟨row.state⟩)).toList := by
  have hmem : ∀ site, site ∈ (grid.sites events).filter (·.concerns ⟨row.state⟩ asked) ↔
      ∃ cell, row.cells[column]? = some cell ∧ Site.mk event ⟨row.state⟩ cell = site :=
    fun _ => mem_filter_sites hstates hevents hrow hcolumn hname
  have hnodup : ((grid.sites events).filter (·.concerns ⟨row.state⟩ asked)).Nodup :=
    (List.Nodup.of_map Site.place (nodup_places_sites hstates hevents)).filter _
  cases hcell : row.cells[column]? with
  | none =>
      apply List.eq_nil_iff_forall_not_mem.2
      intro site hsite
      obtain ⟨cell, hsome, -⟩ := (hmem site).1 hsite
      rw [hcell] at hsome
      contradiction
  | some cell =>
      apply List.perm_singleton.1
      apply (List.perm_ext_iff_of_nodup hnodup (List.nodup_singleton _)).2
      intro site
      rw [hmem, List.mem_singleton, hcell]
      simp [eq_comm]

end Grid

end GridMachine
