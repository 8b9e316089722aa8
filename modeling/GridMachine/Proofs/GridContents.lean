import GridMachine.Proofs.GridRecords

/-!
What a grid has of its records, and why it may not come about. The first record that is not empty
has the headers. Of the records behind it the empty ones are passed over, and each other one is a
row with nothing cut off but empty fields, or is told as the reason why there is no grid.
-/

namespace GridMachine

open InOrder

/-! ### Records -/

namespace Record

/-- Whether there is nothing in a record; one that cannot be decoded is not known to be empty. -/
def IsEmpty (record : Option Record) : Prop :=
  ∃ known, record = some known ∧ ∀ field ∈ known.fields, field = ""

/-- What a row has of its record, in a grid of `width` event columns. -/
structure Gives (width : Nat) (record : Record) (row : GridRow) : Prop where
  line : row.line = record.line
  state : record.fields.head? = some row.state
  named : row.state ≠ ""
  cells : row.cells = (record.fields.drop 1).take width
  beyond : ∀ field ∈ record.fields.drop (width + 1), field = ""

/-- The rows of the records behind the header. -/
inductive Rows (width : Nat) : List (Option Record) → List GridRow → Prop
  | nil : Rows width [] []
  | empty {record : Option Record} {records : List (Option Record)} {rows : List GridRow}
      (isEmpty : IsEmpty record) (later : Rows width records rows) :
      Rows width (record :: records) rows
  | row {record : Record} {row : GridRow} {records : List (Option Record)} {rows : List GridRow}
      (gives : record.Gives width row) (later : Rows width records rows) :
      Rows width (some record :: records) (row :: rows)

/-- Why a record behind the header is refused. What stands beyond the headers is told first. -/
inductive Offends (width : Nat) : Option Record → GridError → Prop
  | undecodable : Offends width none .undecodable
  | ragged {record : Record} (beyond : ∃ field ∈ record.fields.drop (width + 1), field ≠ "") :
      Offends width (some record) (.raggedRow record.line record.fields.length (width + 1))
  | unnamed {record : Record} (nonempty : ¬IsEmpty (some record)) (first : record.field 0 = "")
      (within : ∀ field ∈ record.fields.drop (width + 1), field = "") :
      Offends width (some record) (.emptyStateName record.line)

end Record

namespace Grid

/-- Whether a record is the first that is not empty, with `later` behind it. -/
structure Opens (records : List (Option Record)) (header : Option Record)
    (later : List (Option Record)) : Prop where
  split : ∃ before, records = before ++ header :: later ∧
    ∀ record ∈ before, Record.IsEmpty record
  nonempty : ¬Record.IsEmpty header

/-- Why there is no grid though something is in the records: the first record with a flaw. -/
inductive Refuses (records : List (Option Record)) : GridError → Prop
  | header {later : List (Option Record)} (opens : Opens records none later) :
      Refuses records .undecodable
  | row {header : Record} {later : List (Option Record)} {offender : Option Record}
      {error : GridError} (opens : Opens records (some header) later)
      (offends : Record.Offends (header.fields.drop 1).length offender error)
      (first : IsFirst (fun record => ∃ error,
        Record.Offends (header.fields.drop 1).length record error) later offender) :
      Refuses records error

variable {width : Nat} {record : Record} {records later : List (Option Record)}
  {header : Option Record} {row : GridRow} {rows : List GridRow} {grid : Grid} {error : GridError}

theorem isEmpty_some_iff : Record.IsEmpty (some record) ↔ record.isBlank = true := by
  simp [Record.IsEmpty, Record.isBlank]

theorem not_isEmpty_none : ¬Record.IsEmpty none := by
  rintro ⟨-, ⟨⟩, -⟩

theorem counts_iff {record : Option Record} :
    Record.counts record = true ↔ ¬Record.IsEmpty record := by
  cases record with
  | none => simp [Record.counts, not_isEmpty_none]
  | some record => simp [Record.counts, isEmpty_some_iff]

theorem rowOf_eq_ok_iff_gives : rowOf width record = .ok row ↔ record.Gives width row := by
  rw [rowOf_eq_ok_iff, ← forall_mem_drop_iff]
  obtain ⟨line, fields⟩ := record
  constructor
  · rintro ⟨hbeyond, hstate, rfl⟩
    refine ⟨rfl, ?_, hstate, rfl, hbeyond⟩
    cases fields with
    | nil => exact absurd rfl hstate
    | cons state cells => rfl
  · rintro ⟨hline, hstate, hnamed, hcells, hbeyond⟩
    have hfirst : Record.field ⟨line, fields⟩ 0 = row.state := by
      rw [Record.field, ← List.head?_eq_getElem?, hstate]
      rfl
    refine ⟨hbeyond, hfirst ▸ hnamed, ?_⟩
    rw [hfirst, ← hline, ← hcells]

theorem rowOf_eq_error_iff (hrecord : ¬Record.IsEmpty (some record)) (error : GridError) :
    rowOf width record = .error error ↔ Record.Offends width (some record) error := by
  have hany : ((record.fields.drop (width + 1)).any fun field => !field.isEmpty) = true ↔
      ∃ field ∈ record.fields.drop (width + 1), field ≠ "" := by simp
  constructor
  · intro h
    unfold rowOf at h
    by_cases hbeyond : ∃ field ∈ record.fields.drop (width + 1), field ≠ ""
    · rw [if_pos (hany.2 hbeyond)] at h
      cases h
      exact .ragged hbeyond
    · have hwithin : ∀ field ∈ record.fields.drop (width + 1), field = "" := by
        simpa using hbeyond
      rw [if_neg (mt hany.1 hbeyond)] at h
      split at h
      next hfields =>
        cases h
        exact .unnamed hrecord (by simp [Record.field, hfields]) hwithin
      next state cells hfields =>
        split at h
        next hstate =>
          cases h
          exact .unnamed hrecord (by simpa [Record.field, hfields] using hstate) hwithin
        next => contradiction
  · rintro (_ | hbeyond | ⟨-, hfirst, hwithin⟩)
    · exact if_pos (hany.2 hbeyond)
    · have hnone : ¬∃ field ∈ record.fields.drop (width + 1), field ≠ "" := by simpa using hwithin
      rw [rowOf, if_neg (mt hany.1 hnone)]
      split
      next => rfl
      next state cells hfields =>
        have hstate : state.isEmpty = true := by simpa [Record.field, hfields] using hfirst
        rw [if_pos hstate]

theorem not_offends_of_isEmpty {record : Option Record} (h : Record.IsEmpty record) :
    ¬Record.Offends width record error := by
  obtain ⟨known, rfl, hfields⟩ := h
  rintro (_ | ⟨field, hfield, hne⟩ | ⟨hnonempty⟩)
  · exact hne (hfields field (List.mem_of_mem_drop hfield))
  · exact hnonempty ⟨known, rfl, hfields⟩

theorem rowOf?_eq_error_iff {record : Option Record} {error : GridError} :
    Record.counts record = true ∧ rowOf? width record = .error error ↔
      Record.Offends width record error := by
  rw [counts_iff]
  cases record with
  | none =>
      constructor
      · rintro ⟨-, ⟨⟩⟩
        exact .undecodable
      · rintro ⟨⟩
        exact ⟨not_isEmpty_none, rfl⟩
  | some record =>
      constructor
      · rintro ⟨hrecord, herror⟩
        exact (rowOf_eq_error_iff hrecord error).1 herror
      · intro hoffends
        have hrecord := fun hempty => not_offends_of_isEmpty hempty hoffends
        exact ⟨hrecord, (rowOf_eq_error_iff hrecord error).2 hoffends⟩

/-! ### Rows -/

theorem not_isEmpty_of_gives (h : record.Gives width row) : ¬Record.IsEmpty (some record) := by
  rintro ⟨known, hknown, hfields⟩
  cases hknown
  exact h.named (hfields _ (List.mem_of_head? h.state))

theorem rows_cons_of_isEmpty {record : Option Record} (h : Record.IsEmpty record) :
    Record.Rows width (record :: records) rows ↔ Record.Rows width records rows := by
  constructor
  · rintro (_ | ⟨-, hlater⟩ | ⟨hgives, -⟩)
    · exact hlater
    · exact absurd h (not_isEmpty_of_gives hgives)
  · exact .empty h

theorem rows_cons_of_not_isEmpty (h : ¬Record.IsEmpty (some record)) :
    Record.Rows width (some record :: records) rows ↔
      ∃ row, record.Gives width row ∧ ∃ others, Record.Rows width records others ∧
        row :: others = rows := by
  constructor
  · rintro (_ | ⟨hempty, -⟩ | ⟨hgives, hlater⟩)
    · exact absurd hempty h
    · exact ⟨_, hgives, _, hlater, rfl⟩
  · rintro ⟨row, hgives, others, hlater, rfl⟩
    exact .row hgives hlater

theorem not_rows_cons_none : ¬Record.Rows width (none :: records) rows := by
  rintro ⟨⟩
  next hempty _ => exact not_isEmpty_none hempty

theorem rowsOf_eq_ok_iff : rowsOf width records = .ok rows ↔ Record.Rows width records rows := by
  induction records generalizing rows with
  | nil =>
      rw [rowsOf]
      constructor
      · rintro ⟨⟩
        exact .nil
      · rintro ⟨⟩
        rfl
  | cons record records ih =>
      cases record with
      | none => simp [rowsOf, not_rows_cons_none]
      | some record =>
          rw [rowsOf]
          by_cases hempty : Record.IsEmpty (some record)
          · rw [if_pos (isEmpty_some_iff.1 hempty), ih, rows_cons_of_isEmpty hempty]
          · rw [if_neg (mt isEmpty_some_iff.2 hempty), rows_cons_of_not_isEmpty hempty]
            simp only [bind_eq_ok_iff, rowOf_eq_ok_iff_gives, ih, pure, Except.pure,
              Except.ok.injEq]

/-- Of the records behind the header the first that is refused is told. -/
theorem rowsOf_eq_error_iff :
    rowsOf width records = .error error ↔
      ∃ offender, Record.Offends width offender error ∧
        IsFirst (fun record => ∃ error, Record.Offends width record error) records offender := by
  rw [rowsOf_eq_mapM, mapM_eq_error_iff]
  simp only [isFirst_filter_iff, ← exists_and_left, rowOf?_eq_error_iff]
  constructor
  · rintro ⟨offender, herror, hfirst⟩
    obtain ⟨other, hother⟩ := hfirst.holds
    exact ⟨offender, rowOf?_eq_error_iff.1 ⟨(rowOf?_eq_error_iff.2 hother).1, herror⟩, hfirst⟩
  · rintro ⟨offender, hoffends, hfirst⟩
    exact ⟨offender, (rowOf?_eq_error_iff.2 hoffends).2, hfirst⟩

/-! ### The header -/

theorem opens_cons_iff {record : Option Record} :
    Opens (record :: records) header later ↔
      ¬Record.IsEmpty record ∧ record = header ∧ records = later ∨
        Record.IsEmpty record ∧ Opens records header later := by
  constructor
  · rintro ⟨⟨before, hsplit, hbefore⟩, hheader⟩
    cases before with
    | nil =>
        obtain ⟨rfl, rfl⟩ := List.cons.inj hsplit
        exact .inl ⟨hheader, rfl, rfl⟩
    | cons first before =>
        obtain ⟨rfl, rfl⟩ := List.cons.inj hsplit
        obtain ⟨hfirst, hbefore⟩ := List.forall_mem_cons.1 hbefore
        exact .inr ⟨hfirst, ⟨before, rfl, hbefore⟩, hheader⟩
  · rintro (⟨hheader, rfl, rfl⟩ | ⟨hfirst, ⟨before, rfl, hbefore⟩, hheader⟩)
    · exact ⟨⟨[], rfl, by simp⟩, hheader⟩
    · exact ⟨⟨_ :: before, rfl, List.forall_mem_cons.2 ⟨hfirst, hbefore⟩⟩, hheader⟩

theorem not_opens_nil : ¬Opens [] header later := by
  rintro ⟨⟨before, hsplit, -⟩, -⟩
  simp at hsplit

/-- What comes of the records behind a header. -/
def ofHeader : Option Record → List (Option Record) → Except GridError Grid
  | none, _ => .error .undecodable
  | some header, later =>
      (rowsOf (header.fields.drop 1).length later).map fun rows => ⟨header.fields.drop 1, rows⟩

theorem ofRecords_of_opens (h : Opens records header later) :
    ofRecords records = ofHeader header later := by
  obtain ⟨⟨before, rfl, hbefore⟩, hheader⟩ := h
  induction before with
  | nil =>
      cases header with
      | none => rfl
      | some known =>
          rw [List.nil_append, ofRecords, if_neg (mt isEmpty_some_iff.2 hheader)]
          rfl
  | cons record before ih =>
      obtain ⟨⟨known, rfl, hfields⟩, hrest⟩ := List.forall_mem_cons.1 hbefore
      rw [List.cons_append, ofRecords, if_pos (isEmpty_some_iff.1 ⟨known, rfl, hfields⟩)]
      exact ih hrest

theorem ofRecords_of_isEmpty (h : ∀ record ∈ records, Record.IsEmpty record) :
    ofRecords records = .error .empty := by
  induction records with
  | nil => rfl
  | cons record records ih =>
      obtain ⟨⟨known, rfl, hfields⟩, hrecords⟩ := List.forall_mem_cons.1 h
      rw [ofRecords, if_pos (isEmpty_some_iff.1 ⟨known, rfl, hfields⟩)]
      exact ih hrecords

theorem isEmpty_or_exists_opens (records : List (Option Record)) :
    (∀ record ∈ records, Record.IsEmpty record) ∨ ∃ header later, Opens records header later := by
  rcases forall_not_or_exists_isFirst (¬Record.IsEmpty ·) records with hempty | ⟨header, hfirst⟩
  · exact .inl fun record hrecord => not_not.1 (hempty record hrecord)
  · obtain ⟨before, later, hsplit, hbefore, hheader⟩ := hfirst
    exact .inr ⟨header, later, ⟨before, hsplit, fun record hrecord =>
      not_not.1 (hbefore record hrecord)⟩, hheader⟩

/-- The header and what is behind it are told by the records. -/
theorem Opens.unique {header' : Option Record} {later' : List (Option Record)}
    (h : Opens records header later) (h' : Opens records header' later') :
    header = header' ∧ later = later' := by
  induction records with
  | nil => exact absurd h not_opens_nil
  | cons record records ih =>
      rcases opens_cons_iff.1 h with ⟨hrecord, rfl, rfl⟩ | ⟨hrecord, h⟩
      · rcases opens_cons_iff.1 h' with ⟨-, rfl, rfl⟩ | ⟨hempty, -⟩
        · exact ⟨rfl, rfl⟩
        · contradiction
      · rcases opens_cons_iff.1 h' with ⟨hnonempty, -, -⟩ | ⟨-, h'⟩
        · contradiction
        · exact ih h h'

theorem Opens.not_forall_isEmpty (h : Opens records header later) :
    ¬∀ record ∈ records, Record.IsEmpty record := by
  obtain ⟨⟨before, rfl, -⟩, hheader⟩ := h
  exact fun hempty => hheader (hempty header (by simp))

theorem ofHeader_eq_ok_iff :
    ofHeader header later = .ok grid ↔ ∃ known, header = some known ∧
      grid.events = known.fields.drop 1 ∧ Record.Rows grid.events.length later grid.rows := by
  cases header with
  | none => simp [ofHeader]
  | some known =>
      simp only [ofHeader, Option.some.injEq, exists_eq_left']
      constructor
      · intro h
        cases hrows : rowsOf (known.fields.drop 1).length later with
        | error error =>
            rw [hrows] at h
            contradiction
        | ok rows =>
            rw [hrows] at h
            cases h
            exact ⟨rfl, rowsOf_eq_ok_iff.1 hrows⟩
      · obtain ⟨events, rows⟩ := grid
        rintro ⟨rfl, hrows⟩
        rw [rowsOf_eq_ok_iff.2 hrows]
        rfl

theorem ofHeader_eq_error_iff (h : Opens records header later) :
    ofHeader header later = .error error ↔ Refuses records error := by
  cases header with
  | none =>
      constructor
      · rintro ⟨⟩
        exact .header h
      · rintro (_ | ⟨hopens, -, -⟩)
        · rfl
        · cases (h.unique hopens).1
  | some known =>
      have hrows : ofHeader (some known) later = .error error ↔
          rowsOf (known.fields.drop 1).length later = .error error := by
        rw [ofHeader]
        cases rowsOf (known.fields.drop 1).length later <;> simp [Except.map]
      rw [hrows, rowsOf_eq_error_iff]
      constructor
      · rintro ⟨offender, hoffends, hfirst⟩
        exact .row h hoffends hfirst
      · rintro (hopens | ⟨hopens, hoffends, hfirst⟩)
        · cases (h.unique hopens).1
        · obtain ⟨heq, rfl⟩ := h.unique hopens
          cases heq
          exact ⟨_, hoffends, hfirst⟩

theorem not_refuses_empty : ¬Refuses records .empty := by
  rintro (_ | ⟨-, ⟨⟩, -⟩)

theorem ofRecords_eq_ok_iff_rows :
    ofRecords records = .ok grid ↔ ∃ header later, Opens records (some header) later ∧
      grid.events = header.fields.drop 1 ∧ Record.Rows grid.events.length later grid.rows := by
  rcases isEmpty_or_exists_opens records with hempty | ⟨header, later, hopens⟩
  · rw [ofRecords_of_isEmpty hempty]
    constructor
    · rintro ⟨⟩
    · rintro ⟨header, later, hopens, -⟩
      exact absurd hempty hopens.not_forall_isEmpty
  · rw [ofRecords_of_opens hopens, ofHeader_eq_ok_iff]
    constructor
    · rintro ⟨known, rfl, hevents, hrows⟩
      exact ⟨known, later, hopens, hevents, hrows⟩
    · rintro ⟨known, others, hopens', hevents, hrows⟩
      obtain ⟨rfl, rfl⟩ := hopens.unique hopens'
      exact ⟨known, rfl, hevents, hrows⟩

theorem ofRecords_eq_empty_iff :
    ofRecords records = .error .empty ↔ ∀ record ∈ records, Record.IsEmpty record := by
  rcases isEmpty_or_exists_opens records with hempty | ⟨header, later, hopens⟩
  · exact iff_of_true (ofRecords_of_isEmpty hempty) hempty
  · rw [ofRecords_of_opens hopens, ofHeader_eq_error_iff hopens]
    exact iff_of_false not_refuses_empty hopens.not_forall_isEmpty

theorem ofRecords_eq_error_iff_refuses (herror : error ≠ .empty) :
    ofRecords records = .error error ↔ Refuses records error := by
  rcases isEmpty_or_exists_opens records with hempty | ⟨header, later, hopens⟩
  · rw [ofRecords_of_isEmpty hempty]
    constructor
    · rintro ⟨⟩
      contradiction
    · rintro (hopens | ⟨hopens, -, -⟩)
      · exact absurd hempty hopens.not_forall_isEmpty
      · exact absurd hempty hopens.not_forall_isEmpty
  · rw [ofRecords_of_opens hopens]
    exact ofHeader_eq_error_iff hopens

end Grid

end GridMachine
