import GridMachine.Proofs.GridContents
import Mathlib.Logic.Relation

/-!
Blanks among the records of a grid: empty records anywhere, and empty fields at the ends of records
behind the header. However many of them there are, the records make a grid if they do without, and
one that says the same but for empty cells at the ends of its rows.
-/

namespace GridMachine

/-! ### Records with blanks -/

/-- Whether a record is another with empty fields behind the others; it may have come to stand on
another line. -/
inductive Record.Padded : Option Record → Option Record → Prop
  | undecodable : Padded none none
  | decoded (record : Record) (count line : Nat) :
      Padded (some record) (some ⟨line, record.fields ++ List.replicate count ""⟩)

/-- Whether a row is another with empty cells behind the others; it may come from another line. -/
structure GridRow.Padded (row padded : GridRow) : Prop where
  state : padded.state = row.state
  cells : ∃ count, padded.cells = row.cells ++ List.replicate count ""

/-- Whether a grid is another with empty cells behind those of its rows. -/
structure Grid.Padded (grid padded : Grid) : Prop where
  events : padded.events = grid.events
  rows : List.Forall₂ GridRow.Padded grid.rows padded.rows

/-- The edits that put blanks among records: an empty record is inserted, a record behind the header
is given empty fields, or a record is moved to another line by what was inserted. -/
inductive Grid.Loosens : List (Option Record) → List (Option Record) → Prop
  | insert (before later : List (Option Record)) (record : Option Record)
      (isEmpty : Record.IsEmpty record) : Loosens (before ++ later) (before ++ record :: later)
  | pad (before later : List (Option Record)) (record : Record) (count : Nat)
      (behind : ∃ header ∈ before, ¬Record.IsEmpty header) :
      Loosens (before ++ some record :: later)
        (before ++ some ⟨record.line, record.fields ++ List.replicate count ""⟩ :: later)
  | move (before later : List (Option Record)) (record : Record) (line : Nat) :
      Loosens (before ++ some record :: later) (before ++ some ⟨line, record.fields⟩ :: later)

/-- Whether records differ from others in blanks only, behind a header that has the same fields. -/
structure Grid.Loosened (records loosened : List (Option Record)) : Prop where
  header : (records.find? Record.counts).map (Option.map Record.fields) =
    (loosened.find? Record.counts).map (Option.map Record.fields)
  padded : List.Forall₂ Record.Padded (records.filter Record.counts) (loosened.filter Record.counts)

namespace Record.Padded

variable {record padded other : Option Record}

theorem refl (record : Option Record) : Padded record record := by
  cases record with
  | none => exact .undecodable
  | some record => simpa using Padded.decoded record 0 record.line

theorem refl_all (records : List (Option Record)) : List.Forall₂ Padded records records :=
  List.forall₂_same.2 fun record _ => refl record

theorem trans (h : Padded record padded) (h' : Padded padded other) : Padded record other := by
  cases h with
  | undecodable => exact h'
  | decoded record count line =>
      cases h' with
      | decoded _ more line =>
          rw [List.append_assoc, List.replicate_append_replicate]
          exact .decoded record (count + more) line

theorem counts_eq (h : Padded record padded) : counts record = counts padded := by
  cases h with
  | undecodable => rfl
  | decoded record count line => simp [counts, isBlank]

theorem filter {records loosened : List (Option Record)}
    (h : List.Forall₂ Padded records loosened) :
    List.Forall₂ Padded (records.filter counts) (loosened.filter counts) :=
  List.rel_filter (fun _ _ hpadded => iff_of_eq (congrArg (· = true) hpadded.counts_eq)) h

end Record.Padded

/-! ### Rows with blanks -/

namespace Record

variable {width : Nat} {record : Record}

/-- Whether a record makes a row in a grid of `width` event columns. -/
def MakesRow (width : Nat) (record : Record) : Prop :=
  (∀ column, width ≤ column → record.field (column + 1) = "") ∧ record.field 0 ≠ ""

theorem field_padded (record : Record) (count line column : Nat) :
    Record.field ⟨line, record.fields ++ List.replicate count ""⟩ column = record.field column := by
  unfold field
  rw [List.getElem?_append]
  split
  next => rfl
  next hcolumn =>
    rw [List.getElem?_eq_none (Nat.not_lt.1 hcolumn), List.getElem?_replicate]
    split <;> rfl

theorem makesRow_padded_iff {count line : Nat} :
    MakesRow width ⟨line, record.fields ++ List.replicate count ""⟩ ↔ MakesRow width record := by
  simp only [MakesRow, field_padded]

theorem MakesRow.rowOf_eq (h : record.MakesRow width) : Grid.rowOf width record =
    .ok ⟨record.line, record.field 0, (record.fields.drop 1).take width⟩ :=
  Grid.rowOf_eq_ok_iff.2 ⟨h.1, h.2, rfl⟩

theorem toOption_rowOf_of_not_makesRow (h : ¬record.MakesRow width) :
    (Grid.rowOf width record).toOption = none := by
  cases hrow : Grid.rowOf width record with
  | error error => rfl
  | ok row =>
      obtain ⟨hbeyond, hstate, -⟩ := Grid.rowOf_eq_ok_iff.1 hrow
      exact absurd ⟨hbeyond, hstate⟩ h

/-- The cells of a longer record are those of the shorter one, and empty ones. -/
theorem MakesRow.cells_padded (h : record.MakesRow width) (count : Nat) :
    ∃ more, ((record.fields ++ List.replicate count "").drop 1).take width =
      (record.fields.drop 1).take width ++ List.replicate more "" := by
  have hfields : record.fields ≠ [] := by
    intro hnil
    exact h.2 (by simp [field, hnil])
  rw [List.drop_append_of_le_length (List.length_pos_of_ne_nil hfields), List.take_append,
    List.take_replicate]
  exact ⟨_, rfl⟩

end Record

namespace Grid

variable {width : Nat} {records loosened others : List (Option Record)}

theorem rel_rowOf?_of_padded {record padded : Option Record} (h : Record.Padded record padded) :
    Option.Rel GridRow.Padded (rowOf? width record).toOption (rowOf? width padded).toOption := by
  cases h with
  | undecodable => exact .none
  | decoded record count line =>
      rw [rowOf?, rowOf?]
      by_cases hrow : record.MakesRow width
      · rw [hrow.rowOf_eq, (Record.makesRow_padded_iff.2 hrow).rowOf_eq]
        exact .some ⟨record.field_padded count line 0, hrow.cells_padded count⟩
      · rw [Record.toOption_rowOf_of_not_makesRow hrow,
          Record.toOption_rowOf_of_not_makesRow (mt Record.makesRow_padded_iff.1 hrow)]
        exact .none

/-! ### Grids with blanks -/

/-- What comes of records is told by those that count. -/
theorem ofRecords_eq (records : List (Option Record)) :
    ofRecords records =
      match records.filter Record.counts with
      | [] => .error .empty
      | header :: later => ofHeader header later := by
  induction records with
  | nil => rfl
  | cons record records ih =>
      cases record with
      | none => rfl
      | some record =>
          rw [ofRecords]
          by_cases hblank : record.isBlank = true
          · simpa [Record.counts, hblank] using ih
          · rw [if_neg hblank, List.filter_cons_of_pos (by simp [Record.counts, hblank])]
            simp only [ofHeader, rowsOf_eq_mapM, List.filter_filter, Bool.and_self]
            rfl

theorem rel_rowsOf_of_padded (width : Nat) (h : List.Forall₂ Record.Padded records loosened) :
    Option.Rel (List.Forall₂ GridRow.Padded) (rowsOf width records).toOption
      (rowsOf width loosened).toOption := by
  rw [rowsOf_eq_mapM, rowsOf_eq_mapM]
  exact rel_toOption_mapM (fun _ _ => rel_rowOf?_of_padded) (Record.Padded.filter h)

theorem rel_ofHeader_of_padded {header header' : Option Record}
    (hheader : header.map Record.fields = header'.map Record.fields)
    (h : List.Forall₂ Record.Padded records loosened) :
    Option.Rel Padded (ofHeader header records).toOption (ofHeader header' loosened).toOption := by
  cases header with
  | none =>
      cases header' with
      | none => exact .none
      | some header' => cases hheader
  | some header =>
      cases header' with
      | none => cases hheader
      | some header' =>
          have hfields : header.fields = header'.fields := Option.some.inj hheader
          have hrows := rel_rowsOf_of_padded (header'.fields.drop 1).length h
          rw [ofHeader, ofHeader, hfields]
          generalize rowsOf (header'.fields.drop 1).length records = rows at *
          generalize rowsOf (header'.fields.drop 1).length loosened = rows' at *
          cases rows <;> cases rows' <;> cases hrows
          · exact .none
          · next hrows => exact .some ⟨rfl, hrows⟩

theorem Loosened.refl (records : List (Option Record)) : Loosened records records where
  header := rfl
  padded := Record.Padded.refl_all _

theorem Loosened.trans (h : Loosened records loosened) (h' : Loosened loosened others) :
    Loosened records others where
  header := h.header.trans h'.header
  padded := forall₂_trans (fun _ _ _ => .trans) h.padded h'.padded

theorem forall₂_filter_of_padded {before later : List (Option Record)}
    {record padded : Option Record} (h : Record.Padded record padded) :
    List.Forall₂ Record.Padded ((before ++ record :: later).filter Record.counts)
      ((before ++ padded :: later).filter Record.counts) := by
  apply Record.Padded.filter
  apply List.rel_append
  · exact Record.Padded.refl_all before
  · exact .cons h (Record.Padded.refl_all later)

theorem loosened_of_loosens (h : Loosens records loosened) : Loosened records loosened := by
  cases h with
  | insert before later record isEmpty =>
      have hcounts : ¬Record.counts record = true := fun h => counts_iff.1 h isEmpty
      constructor
      · rw [List.find?_append, List.find?_append, List.find?_cons_of_neg hcounts]
      · rw [List.filter_append, List.filter_append, List.filter_cons_of_neg hcounts]
        exact Record.Padded.refl_all _
  | pad before later record count behind =>
      obtain ⟨header, hmem, hheader⟩ := behind
      have hfind : (before.find? Record.counts).isSome = true :=
        List.find?_isSome.2 ⟨header, hmem, counts_iff.2 hheader⟩
      constructor
      · rw [List.find?_append, List.find?_append, Option.or_of_isSome hfind,
          Option.or_of_isSome hfind]
      · exact forall₂_filter_of_padded (.decoded record count record.line)
  | move before later record line =>
      constructor
      · rw [List.find?_append, List.find?_append]
        cases before.find? Record.counts with
        | some header => rfl
        | none =>
            have hcounts :
                Record.counts (some ⟨line, record.fields⟩) = Record.counts (some record) := rfl
            rw [Option.none_or, Option.none_or, List.find?_cons, List.find?_cons, hcounts]
            split <;> rfl
      · apply forall₂_filter_of_padded
        simpa using Record.Padded.decoded record 0 line

/-- However many blanks are put among records, they differ in blanks only. -/
theorem loosened_of_reflTransGen (h : Relation.ReflTransGen Loosens records loosened) :
    Loosened records loosened := by
  induction h with
  | refl => exact .refl records
  | tail _ hstep ih => exact ih.trans (loosened_of_loosens hstep)

theorem Loosened.rel_ofRecords (h : Loosened records loosened) :
    Option.Rel Padded (ofRecords records).toOption (ofRecords loosened).toOption := by
  obtain ⟨hheader, hpadded⟩ := h
  rw [← List.head?_filter, ← List.head?_filter] at hheader
  rw [ofRecords_eq, ofRecords_eq]
  generalize records.filter Record.counts = counted at *
  generalize loosened.filter Record.counts = counted' at *
  cases hpadded with
  | nil => exact .none
  | cons hhead hlater => exact rel_ofHeader_of_padded (Option.some.inj hheader) hlater

/-- **A grid drops nothing but blanks.** Whatever the records, the first that is not empty has the
headers, and of the later ones each that is not empty is a row, with all of its fields but empty
ones beyond the headers. There is no grid if nothing is in the records, and none if one of them has
a flaw, of which the first is told. Blanks that are put among records make no difference but for
empty cells. -/
theorem ofRecords_drops_only_blanks (records : List (Option Record)) :
    (∀ grid, ofRecords records = .ok grid ↔ ∃ header later, Opens records (some header) later ∧
      grid.events = header.fields.drop 1 ∧ Record.Rows grid.events.length later grid.rows) ∧
    (ofRecords records = .error .empty ↔ ∀ record ∈ records, Record.IsEmpty record) ∧
    (∀ error, error ≠ .empty → (ofRecords records = .error error ↔ Refuses records error)) ∧
    ∀ loosened, Relation.ReflTransGen Loosens records loosened →
      Option.Rel Padded (ofRecords records).toOption (ofRecords loosened).toOption := by
  refine ⟨fun grid => ofRecords_eq_ok_iff_rows, ofRecords_eq_empty_iff, ?_, ?_⟩
  · intro error herror
    exact ofRecords_eq_error_iff_refuses herror
  · intro loosened hrun
    exact (loosened_of_reflTransGen hrun).rel_ofRecords

/-- An empty record, a header, and a row that does not reach the last column. -/
def sparseRecords : List (Option Record) :=
  [some ⟨1, ["", ""]⟩, some ⟨2, ["State", "Go", "Stop"]⟩, some ⟨3, ["A", "B"]⟩]

/-- The third record has no name for its state and goes on beyond the header, of which the latter is
told, and the fourth cannot be decoded. -/
def flawedRecords : List (Option Record) :=
  [some ⟨1, ["State", "Go"]⟩, some ⟨2, ["A", "B", ""]⟩, some ⟨3, ["", "A", "B"]⟩, none]

/-- The last row may be given an empty cell and be moved by an empty record before it. -/
theorem ofRecords_drops_only_blanks_sparse :
    (∃ header later, Opens sparseRecords (some header) later ∧
      ["Go", "Stop"] = header.fields.drop 1 ∧ Record.Rows 2 later [⟨3, "A", ["B"]⟩]) ∧
    GridError.raggedRow 3 3 2 ≠ .empty ∧ Refuses flawedRecords (.raggedRow 3 3 2) ∧
    Relation.ReflTransGen Loosens sparseRecords
      [some ⟨1, ["", ""]⟩, some ⟨2, ["State", "Go", "Stop"]⟩, some ⟨3, [""]⟩,
        some ⟨4, ["A", "B", "", ""]⟩] ∧
    Option.Rel Padded (some ⟨["Go", "Stop"], [⟨3, "A", ["B"]⟩]⟩)
      (some ⟨["Go", "Stop"], [⟨4, "A", ["B", ""]⟩]⟩) := by
  have hsparse := ofRecords_drops_only_blanks sparseRecords
  have hrun : Relation.ReflTransGen Loosens sparseRecords
      [some ⟨1, ["", ""]⟩, some ⟨2, ["State", "Go", "Stop"]⟩, some ⟨3, [""]⟩,
        some ⟨4, ["A", "B", "", ""]⟩] := by
    have hheader : ¬Record.IsEmpty (some ⟨2, ["State", "Go", "Stop"]⟩) := by
      simp [Record.IsEmpty]
    apply Relation.ReflTransGen.head
    · exact .insert (sparseRecords.take 2) (sparseRecords.drop 2) (some ⟨3, [""]⟩) ⟨_, rfl, by simp⟩
    apply Relation.ReflTransGen.head
    · exact .pad (sparseRecords.take 2 ++ [some ⟨3, [""]⟩]) [] ⟨3, ["A", "B"]⟩ 2
        ⟨_, List.mem_cons_of_mem _ List.mem_cons_self, hheader⟩
    · exact .single (.move (sparseRecords.take 2 ++ [some ⟨3, [""]⟩]) [] ⟨3, ["A", "B", "", ""]⟩ 4)
  have hragged : GridError.raggedRow 3 3 2 ≠ .empty := by decide
  refine ⟨(hsparse.1 ⟨["Go", "Stop"], [⟨3, "A", ["B"]⟩]⟩).1 rfl, hragged, ?_, hrun,
    hsparse.2.2.2 _ hrun⟩
  exact ((ofRecords_drops_only_blanks flawedRecords).2.2.1 _ hragged).1 rfl

end Grid

end GridMachine
