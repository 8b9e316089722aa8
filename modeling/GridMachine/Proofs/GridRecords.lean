import GridMachine.Proofs.SideBySide
import GridMachine.Proofs.Sites

/-!
Grids as they are read from records. Blank records count for nothing; of the others the first has the
headers, and each later one becomes a row or is refused. A row says no more than the fields of its
record: fields that are missing read as empty ones, and empty ones beyond the headers are left out.
-/

namespace GridMachine

open InOrder

/-- The field of a record in a column, which is empty where the record does not reach it. -/
def Record.field (record : Record) (column : Nat) : String := record.fields[column]?.getD ""

/-- Whether a record is not passed over as a blank one; `none` is one that cannot be decoded. -/
def Record.counts (record : Option Record) : Bool := !record.any Record.isBlank

namespace Grid

/-- The records of a text that count. -/
def records (delimiter : UInt8) (text : List UInt8) : List (Option Record) :=
  ((Records.ofBytes delimiter text).map Record.ofRaw?).filter Record.counts

/-- The row of a record that may not be decoded. -/
def rowOf? (width : Nat) : Option Record → Except GridError GridRow
  | none => .error .undecodable
  | some record => rowOf width record

theorem rowsOf_eq_mapM (width : Nat) (records : List (Option Record)) :
    rowsOf width records = (records.filter Record.counts).mapM (rowOf? width) := by
  induction records with
  | nil => rfl
  | cons record records ih =>
      cases record with
      | none => rfl
      | some record =>
          rw [rowsOf]
          by_cases hblank : record.isBlank = true
          · simp [Record.counts, hblank, ih]
          · simp [Record.counts, hblank, ih, List.mapM_cons, rowOf?]

/-- A grid has a header and rows, each of which can be read. -/
theorem ofRecords_eq_ok_iff {records : List (Option Record)} {grid : Grid} :
    ofRecords records = .ok grid ↔
      ∃ header rows, records.filter Record.counts = some header :: rows ∧
        header.fields.drop 1 = grid.events ∧
          rows.mapM (rowOf? grid.events.length) = .ok grid.rows := by
  induction records with
  | nil => simp [ofRecords]
  | cons record records ih =>
      cases record with
      | none => simp [ofRecords, Record.counts]
      | some record =>
          rw [ofRecords]
          by_cases hblank : record.isBlank = true
          · simp [Record.counts, hblank, ih]
          · rw [if_neg hblank]
            simp only [bind_eq_ok_iff, rowsOf_eq_mapM, pure, Except.pure, Except.ok.injEq]
            simp only [Record.counts, hblank, List.filter_cons, Option.any_some, Bool.not_false, if_true,
              List.cons.injEq, Option.some.injEq]
            constructor
            · rintro ⟨rows, hrows, rfl⟩
              exact ⟨record, _, ⟨rfl, rfl⟩, rfl, hrows⟩
            · rintro ⟨_, _, ⟨rfl, rfl⟩, hevents, hrows⟩
              refine ⟨grid.rows, ?_, ?_⟩
              · rw [hevents]
                exact hrows
              · rw [hevents]

theorem read_eq_ok_iff {delimiter : UInt8} {text : List UInt8} {grid : Grid} :
    read delimiter text = .ok grid ↔
      ∃ header rows, records delimiter text = some header :: rows ∧
        header.fields.drop 1 = grid.events ∧
          rows.mapM (rowOf? grid.events.length) = .ok grid.rows :=
  ofRecords_eq_ok_iff

/-- Nothing but empty fields stands beyond a column. -/
theorem forall_mem_drop_iff {record : Record} {width : Nat} :
    (∀ field ∈ record.fields.drop (width + 1), field = "") ↔
      ∀ column, width ≤ column → record.field (column + 1) = "" := by
  constructor
  · intro h column hcolumn
    unfold Record.field
    cases hfield : record.fields[column + 1]? with
    | none => rfl
    | some field =>
        refine h field (List.mem_iff_getElem?.2 ⟨column - width, ?_⟩)
        rw [List.getElem?_drop, ← hfield]
        congr 1
        omega
  · intro h field hmem
    obtain ⟨offset, hfield⟩ := List.mem_iff_getElem?.1 hmem
    rw [List.getElem?_drop] at hfield
    have hempty := h (width + offset) (Nat.le_add_right width offset)
    unfold Record.field at hempty
    rw [Nat.add_right_comm, hfield] at hempty
    exact hempty

theorem rowOf_eq_ok_iff {width : Nat} {record : Record} {row : GridRow} :
    rowOf width record = .ok row ↔
      (∀ column, width ≤ column → record.field (column + 1) = "") ∧ record.field 0 ≠ "" ∧
        ⟨record.line, record.field 0, (record.fields.drop 1).take width⟩ = row := by
  rw [← forall_mem_drop_iff]
  obtain ⟨line, fields⟩ := record
  have hany : ((fields.drop (width + 1)).any fun field => !field.isEmpty) = true ↔
      ¬∀ field ∈ fields.drop (width + 1), field = "" := by simp
  unfold rowOf Record.field
  by_cases hbeyond : ∀ field ∈ fields.drop (width + 1), field = ""
  · rw [if_neg fun hragged => hany.1 hragged hbeyond]
    rw [and_iff_right hbeyond]
    cases fields with
    | nil => simp
    | cons state cells => by_cases hstate : state = "" <;> simp [hstate]
  · rw [if_pos (hany.2 hbeyond)]
    simp only [reduceCtorEq, false_iff]
    exact fun h => hbeyond h.1

theorem cell_of_rowOf {width : Nat} {record : Record} {row : GridRow}
    (h : rowOf width record = .ok row) (column : Nat) :
    row.cell column = record.field (column + 1) := by
  obtain ⟨hbeyond, -, rfl⟩ := rowOf_eq_ok_iff.1 h
  unfold GridRow.cell
  by_cases hcolumn : column < width
  · simp [Record.field, hcolumn]
  · rw [hbeyond column (Nat.not_lt.1 hcolumn), List.getElem?_take_eq_none (Nat.not_lt.1 hcolumn)]
    rfl

/-- No row is longer than the header. -/
theorem length_cells_of_read {delimiter : UInt8} {text : List UInt8}
    {grid : Grid} (h : read delimiter text = .ok grid) {row : GridRow} (hrow : row ∈ grid.rows) :
    row.cells.length ≤ grid.events.length := by
  obtain ⟨header, rows, -, -, hrows⟩ := read_eq_ok_iff.1 h
  obtain ⟨record, -, hrecord⟩ := exists_left_of_forall₂ (InOrder.mapM_eq_ok_iff.1 hrows) hrow
  cases record with
  | none => contradiction
  | some record =>
      obtain ⟨-, -, rfl⟩ := rowOf_eq_ok_iff.1 hrecord
      exact List.length_take_le _ _

end Grid

end GridMachine
