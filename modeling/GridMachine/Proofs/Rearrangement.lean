import GridMachine.Proofs.GridRecords
import GridMachine.Proofs.SideBySide

/-!
Tables with their rows and columns in another order. A table is read as before if its data rows are
shuffled and its event columns are moved along with their headers: the grid then has the same rows
and headers at other places, and the same cells for the same states and events.
-/

namespace GridMachine

/-! ### Records and rows -/

/-- Whether the fields of a record are those of another, all but the first in other columns. -/
structure Record.Rearranged (columns : Equiv.Perm Nat) (record other : Record) : Prop where
  first : other.field 0 = record.field 0
  later : ∀ column, other.field (columns column + 1) = record.field (column + 1)

/-- Whether one table is another in which the rows stand in any order and the event columns, of which
there are as many as headers, are moved along with these. -/
inductive Record.TableRearranged : List (Option Record) → List (Option Record) → Prop
  | intro {header other : Record} {rows others : List (Option Record)}
      (columns : Equiv.Perm Nat)
      (within : ∀ column, header.fields.length ≤ column + 1 → columns column = column)
      (width : other.fields.length = header.fields.length)
      (headers : header.Rearranged columns other)
      (data : Matched (Option.Rel (Record.Rearranged columns)) rows others) :
      TableRearranged (some header :: rows) (some other :: others)

/-- Whether the cells of a row are those of another for the same state in other columns. -/
structure GridRow.Rearranged (columns : Equiv.Perm Nat) (row other : GridRow) : Prop where
  state : other.state = row.state
  cells : ∀ column, other.cell (columns column) = row.cell column

/-- Whether a grid has the rows of another in any order and its columns at other places. -/
structure Grid.Rearranged (columns : Equiv.Perm Nat) (grid other : Grid) : Prop where
  headers : Moved columns grid.events other.events
  rows : Matched (GridRow.Rearranged columns) grid.rows other.rows

/-! ### Back to the first order -/

variable {columns : Equiv.Perm Nat}

theorem Record.Rearranged.symm {record other : Record} (h : record.Rearranged columns other) :
    other.Rearranged columns.symm record where
  first := h.first.symm
  later column := by rw [← h.later, columns.apply_symm_apply]

theorem GridRow.Rearranged.symm {row other : GridRow} (h : row.Rearranged columns other) :
    other.Rearranged columns.symm row where
  state := h.state.symm
  cells column := by rw [← h.cells, columns.apply_symm_apply]

theorem Grid.Rearranged.symm {grid other : Grid} (h : grid.Rearranged columns other) :
    other.Rearranged columns.symm grid where
  headers := h.headers.symm
  rows := h.rows.symm.imp fun _ _ hrow => hrow.symm

theorem Record.TableRearranged.symm {records others : List (Option Record)}
    (h : TableRearranged records others) : TableRearranged others records := by
  obtain ⟨columns, within, width, headers, data⟩ := h
  refine ⟨columns.symm, fun column hcolumn => ?_, width.symm, headers.symm, data.symm.imp ?_⟩
  · rw [Equiv.symm_apply_eq, within column (width ▸ hcolumn)]
  · intro record other hrecord
    cases hrecord with
    | none => exact .none
    | some h => exact .some h.symm

/-! ### Reading a table -/

namespace Grid

theorem exists_rowOf?_of_rearranged {width : Nat}
    (within : ∀ column, width ≤ column → columns column = column) {record other : Option Record}
    (h : Option.Rel (Record.Rearranged columns) record other) {row : GridRow}
    (hrow : rowOf? width record = .ok row) :
    ∃ moved, rowOf? width other = .ok moved ∧ row.Rearranged columns moved := by
  cases h with
  | none => contradiction
  | @some record other h =>
      obtain ⟨hbeyond, hstate, rfl⟩ := rowOf_eq_ok_iff.1 hrow
      have hbeyond' : ∀ column, width ≤ column → other.field (column + 1) = "" := by
        intro column hcolumn
        have hlater := h.later column
        rw [within column hcolumn] at hlater
        rw [hlater, hbeyond column hcolumn]
      have hmoved := rowOf_eq_ok_iff.2 ⟨hbeyond', h.first ▸ hstate, rfl⟩
      refine ⟨_, hmoved, h.first, fun column => ?_⟩
      rw [cell_of_rowOf hmoved, cell_of_rowOf hrow, h.later]

/-- The headers behind the first are moved with their columns. -/
theorem moved_headers {header other : Record}
    (within : ∀ column, header.fields.length ≤ column + 1 → columns column = column)
    (width : other.fields.length = header.fields.length) (h : header.Rearranged columns other) :
    Moved columns (header.fields.drop 1) (other.fields.drop 1) := by
  have hfield : ∀ (record : Record) (column : Nat), (record.fields.drop 1)[column]? =
      if column + 1 < record.fields.length then some (record.field (column + 1)) else none := by
    intro record column
    rw [List.getElem?_drop, Nat.add_comm, Record.field]
    split
    next hlt => rw [List.getElem?_eq_getElem hlt, Option.getD_some]
    next hle => exact List.getElem?_eq_none (Nat.not_lt.1 hle)
  intro column
  rw [hfield, hfield, width, h.later]
  by_cases hcolumn : column + 1 < header.fields.length
  · have hmoved : columns column + 1 < header.fields.length := by
      by_contra hle
      have hfixed := columns.injective (within (columns column) (Nat.not_lt.1 hle))
      exact hle (hfixed.symm ▸ hcolumn)
    rw [if_pos hcolumn, if_pos hmoved]
  · rw [within column (Nat.not_lt.1 hcolumn)]

/-- **A table that is rearranged is read as the grid that is rearranged alike.** -/
theorem exists_read_of_rearranged {delimiter : UInt8} {text other : List UInt8} {grid : Grid}
    (h : Record.TableRearranged (records delimiter text) (records delimiter other))
    (hread : read delimiter text = .ok grid) :
    ∃ columns moved, read delimiter other = .ok moved ∧ grid.Rearranged columns moved := by
  obtain ⟨header, rows, hrecords, hevents, hrows⟩ := read_eq_ok_iff.1 hread
  rw [hrecords] at h
  generalize hothers : records delimiter other = others at h
  cases h with
  | @intro _ header' _ rows' columns within width headers data =>
      have hmoved := moved_headers within width headers
      rw [hevents] at hmoved
      have hwidth : (header'.fields.drop 1).length = grid.events.length := by
        rw [← hevents, List.length_drop, List.length_drop, width]
      have hwithin : ∀ column, grid.events.length ≤ column → columns column = column := by
        intro column hcolumn
        rw [← hevents, List.length_drop] at hcolumn
        exact within column (Nat.le_add_of_sub_le hcolumn)
      obtain ⟨moved, hreads, hmatched⟩ :=
        data.mapM (fun _ _ _ hrel hrow => exists_rowOf?_of_rearranged hwithin hrel hrow) hrows
      refine ⟨columns, ⟨header'.fields.drop 1, moved⟩, ?_, hmoved, hmatched⟩
      exact read_eq_ok_iff.2 ⟨header', rows', hothers, rfl, hwidth.symm ▸ hreads⟩

end Grid

/-! ### Cells of a grid -/

/-- A cell that is not empty is found again at the place that it is moved to. -/
theorem Grid.Rearranged.mem_sites {grid other : Grid} {events events' : List Event}
    (h : grid.Rearranged columns other) (hevents : Moved columns events events') {site : Site}
    (hcell : site.cell ≠ "") (hsite : site ∈ grid.sites events) : site ∈ other.sites events' := by
  obtain ⟨row, hrow, hsource, column, hevent, hfound⟩ := Grid.mem_sites.1 hsite
  obtain ⟨row', hrow', hmoved⟩ := h.rows.exists_of_mem hrow
  refine Grid.mem_sites.2 ⟨row', hrow', ?_, columns column, (hevents column).trans hevent, ?_⟩
  · rw [hsource, hmoved.state]
  · have hcells := hmoved.cells column
    rw [GridRow.cell, GridRow.cell, hfound, Option.getD_some] at hcells
    cases hfound' : row'.cells[columns column]? with
    | none =>
        rw [hfound'] at hcells
        exact absurd hcells.symm hcell
    | some cell =>
        rw [hfound'] at hcells
        exact congrArg some hcells

theorem Grid.Rearranged.perm_states {grid other : Grid} (h : grid.Rearranged columns other) :
    grid.states.Perm other.states :=
  h.rows.perm_map fun _ _ hrow => hrow.state.symm

end GridMachine
