import GridMachine.Grid.Basic
import GridMachine.Loader.Config
import GridMachine.Proofs.RecordRun
import GridMachine.Proofs.Refusal

/-!
Grids that are written and read again. With every field between quotes and quotes doubled, the
fields of a record come back byte by byte, whatever is in them. Trimming leaves trimmed texts as
they are, so the events, states and cells that were written are the ones that are read.
-/

namespace GridMachine

/-! ### Delimiters -/

theorem Config.delimiter_of_validate {config : Config} (h : config.validate = .ok ()) :
    config.delimiter.toNat < 128 ∧ config.delimiter ∉ reservedDelimiters :=
  (validate_eq_ok_iff.1 h).2

theorem toUInt8_ne {c d : Char} (hc : c.toNat < 128) (hd : d.toNat < 128) (h : c ≠ d) :
    c.toNat.toUInt8 ≠ d.toNat.toUInt8 := by
  intro heq
  have hnat := congrArg UInt8.toNat heq
  simp only [Nat.toUInt8, UInt8.toNat_ofNat'] at hnat
  exact h (Char.toNat_inj.1 (by omega))

namespace Records

/-! ### Records -/

section Fields

variable {delimiter : UInt8} {line startLine : Nat} {fields : List (List UInt8)}

/-- Within quotes bytes are taken as they are, and two quotes as one. -/
theorem passes_doubled (delimiter : UInt8) (line startLine : Nat) (field bytes : List UInt8)
    (fields : List (List UInt8)) :
    ∃ reached, State.Passes delimiter ⟨.quoted, line, startLine, field, fields⟩
      (bytes.flatMap fun b => if b == quote then [quote, quote] else [b])
      ⟨.quoted, reached, startLine, bytes.reverse ++ field, fields⟩ := by
  induction bytes generalizing line field with
  | nil => exact ⟨line, .done _⟩
  | cons b bytes ih =>
      rw [List.flatMap_cons, List.reverse_cons, List.append_assoc]
      by_cases hb : b = quote
      · -- the first quote might end the field, the second takes that back
        subst hb
        obtain ⟨reached, hpasses⟩ := ih line (quote :: field)
        exact ⟨reached, .next rfl (.next rfl hpasses)⟩
      · obtain ⟨reached, hpasses⟩ := ih (line + [b].count lineFeed) (b :: field)
        have hstep : (⟨.quoted, line, startLine, field, fields⟩ : State).step delimiter b =
            (⟨.quoted, line + [b].count lineFeed, startLine, b :: field, fields⟩, none) := by
          rw [State.step_eq]
          simp [hb, State.counting, State.add]
        rw [if_neg (by simpa using hb)]
        exact ⟨reached, .next hstep hpasses⟩

/-- A field between quotes is read up to where it may end. -/
theorem passes_renderField {mode : Mode} (hmode : mode = .recordStart ∨ mode = .fieldStart)
    (delimiter : UInt8) (line startLine : Nat) (bytes : List UInt8) (fields : List (List UInt8)) :
    ∃ reached, State.Passes delimiter ⟨mode, line, startLine, [], fields⟩ (renderField bytes)
      ⟨.quoteInQuoted, reached, startLine, bytes.reverse, fields⟩ := by
  obtain ⟨reached, hpasses⟩ := passes_doubled delimiter line startLine [] bytes fields
  rw [List.append_nil] at hpasses
  have hopened : (⟨mode, line, startLine, [], fields⟩ : State).step delimiter quote =
      (⟨.quoted, line, startLine, [], fields⟩, none) := by
    rcases hmode with rfl | rfl <;> rfl
  have hclosed :
      (⟨.quoted, reached, startLine, bytes.reverse, fields⟩ : State).step delimiter quote =
        (⟨.quoteInQuoted, reached, startLine, bytes.reverse, fields⟩, none) := rfl
  exact ⟨reached, .next hopened (hpasses.append (.single hclosed))⟩

variable (hquote : delimiter ≠ quote) (hfeed : delimiter ≠ lineFeed)

include hquote hfeed

/-- The fields of a record are read up to where the last of them may end. -/
theorem passes_renderFields {mode : Mode} (hmode : mode = .recordStart ∨ mode = .fieldStart)
    (line startLine : Nat) (field : List UInt8) (more fields : List (List UInt8)) :
    ∃ last, State.Passes delimiter ⟨mode, line, startLine, [], fields⟩
        ([delimiter].intercalate ((field :: more).map renderField)) last ∧
      last.mode = .quoteInQuoted ∧ last.record.fields = fields.reverse ++ field :: more := by
  induction more generalizing mode line field fields with
  | nil =>
      obtain ⟨reached, hpasses⟩ := passes_renderField hmode delimiter line startLine field fields
      rw [List.map_singleton, List.intercalate_singleton]
      exact ⟨_, hpasses, rfl, by simp [State.record]⟩
  | cons next more ih =>
      obtain ⟨reached, hpasses⟩ := passes_renderField hmode delimiter line startLine field fields
      have hstep :
          (⟨.quoteInQuoted, reached, startLine, field.reverse, fields⟩ : State).step delimiter
              delimiter = (⟨.fieldStart, reached, startLine, [], field :: fields⟩, none) := by
        rw [State.step_eq]
        simp [hquote, hfeed, State.counting, State.stepUnquoted, State.nextField]
      obtain ⟨last, hrest, hlast, hfields⟩ := ih (.inr rfl) reached next (field :: fields)
      rw [List.map_cons, List.map_cons, List.intercalate_cons_cons, List.append_assoc]
      refine ⟨last, hpasses.append (.next hstep hrest), hlast, ?_⟩
      simpa using hfields

/-- Records that are written one after the other are completed one after the other. -/
theorem completes_renderRecord {rows : List (List String)} (hrows : ∀ row ∈ rows, row ≠ [])
    (line : Nat) :
    ∃ records reached, State.Completes delimiter (.between line)
        (rows.flatMap (renderRecord delimiter)) records (.between reached) ∧
      records.map RawRecord.fields = rows.map fun row => row.map bytesOf := by
  induction rows generalizing line with
  | nil => exact ⟨[], line, .nothing _, rfl⟩
  | cons row rows ih =>
      obtain ⟨hrow, hothers⟩ := List.forall_mem_cons.1 hrows
      obtain ⟨field, more, rfl⟩ := List.exists_cons_of_ne_nil hrow
      obtain ⟨last, hpasses, hlast, hfields⟩ :=
        passes_renderFields hquote hfeed (.inl rfl) line line (bytesOf field) (more.map bytesOf) []
      have hstep : last.step delimiter lineFeed = (.between (last.line + 1), some last.record) := by
        have hnot : lineFeed ≠ delimiter := hfeed.symm
        rw [State.step_eq, hlast]
        simp only [State.stepUnquoted, beq_iff_eq, hnot, if_false]
        rfl
      obtain ⟨records, reached, hrest, hrecords⟩ := ih hothers (last.line + 1)
      refine ⟨last.record :: records, reached, ?_, ?_⟩
      · have hall := State.Completes.record hpasses hstep hrest
        rw [← List.map_cons, List.map_map] at hall
        rw [List.flatMap_cons, renderRecord, List.append_assoc]
        exact hall
      · rw [List.map_cons, List.map_cons, hrecords, hfields]
        rfl

/-- What is written comes back, field by field. -/
theorem fields_ofBytes_render {rows : List (List String)} (hrows : ∀ row ∈ rows, row ≠ []) :
    (ofBytes delimiter (rows.flatMap (renderRecord delimiter))).map RawRecord.fields =
      rows.map fun row => row.map bytesOf := by
  obtain ⟨records, reached, hcompletes, hfields⟩ := completes_renderRecord hquote hfeed hrows 1
  -- what is written begins with a quote, so it has no byte order mark to lose
  have hmark : dropByteOrderMark (rows.flatMap (renderRecord delimiter)) =
      rows.flatMap (renderRecord delimiter) := by
    cases rows with
    | nil => rfl
    | cons row rows =>
        obtain ⟨field, more, rfl⟩ := List.exists_cons_of_ne_nil (hrows row List.mem_cons_self)
        cases more <;> rfl
  have hrun := hcompletes.run_append []
  rw [List.append_nil, show (State.between reached).run delimiter [] = [] from rfl,
    List.append_nil] at hrun
  rw [ofBytes, hmark, ← hfields]
  exact congrArg _ hrun

end Fields

end Records

/-! ### Rows -/

namespace Record

theorem decode?_bytesOf (s : String) : decode? (Records.bytesOf s) = some s := by
  have hbytes : (⟨(Records.bytesOf s).toArray⟩ : ByteArray) = s.toByteArray := by
    simp [Records.bytesOf]
  rw [decode?, hbytes, String.fromUTF8?, dif_pos s.isValidUTF8]
  rfl

theorem mapM_decode?_bytesOf (fields : List String) :
    (fields.map Records.bytesOf).mapM decode? = some fields := by
  induction fields with
  | nil => rfl
  | cons field fields ih => rw [List.map_cons, List.mapM_cons, decode?_bytesOf, ih]; rfl

end Record

/-- Whether trimming leaves a text as it is. -/
def IsTrim (s : String) : Prop := Text.trimmed s = s

instance (s : String) : Decidable (IsTrim s) := inferInstanceAs (Decidable (_ = _))

theorem Record.ofRaw?_of_fields {raw : Records.RawRecord} {fields : List String}
    (hfields : raw.fields = fields.map Records.bytesOf) (htrim : ∀ field ∈ fields, IsTrim field) :
    ofRaw? raw = some ⟨raw.line, fields⟩ := by
  have htrimmed : fields.map Text.trimmed = fields := by
    calc
      _ = fields.map id := List.map_congr_left htrim
      _ = fields := List.map_id fields
  rw [ofRaw?, hfields, mapM_decode?_bytesOf, Option.bind_eq_bind, Option.bind_some, htrimmed]

namespace Grid

/-- What is told by a row apart from its line. -/
def content (row : GridRow) : String × List String := (row.state, row.cells)

/-- Whether a grid is one that can be read: its texts are trimmed, the states have names and no row
is longer than the header, which begins with `corner`. -/
structure Writable (corner : String) (grid : Grid) : Prop where
  corner_ne : corner ≠ ""
  corner_trim : IsTrim corner
  events : ∀ event ∈ grid.events, IsTrim event
  states : ∀ row ∈ grid.rows, row.state ≠ "" ∧ IsTrim row.state
  cells : ∀ row ∈ grid.rows, ∀ cell ∈ row.cells, IsTrim cell
  width : ∀ row ∈ grid.rows, row.cells.length ≤ grid.events.length

theorem not_isBlank {record : Record} {first : String} {fields : List String}
    (hfields : record.fields = first :: fields) (hfirst : first ≠ "") : record.isBlank = false := by
  simp [Record.isBlank, hfields, hfirst]

theorem rowOf_written {line width : Nat} {state : String} {cells : List String}
    (hstate : state ≠ "") (hwidth : cells.length ≤ width) :
    rowOf width ⟨line, state :: cells⟩ = .ok ⟨line, state, cells⟩ := by
  have hbeyond : (state :: cells).drop (width + 1) = [] :=
    List.drop_eq_nil_iff.2 (Nat.succ_le_succ hwidth)
  simp [rowOf, hbeyond, hstate, List.take_of_length_le hwidth]

theorem rowsOf_written {width : Nat} {raws : List Records.RawRecord} {rows : List GridRow}
    (hfields : raws.map Records.RawRecord.fields =
      rows.map fun row => (row.state :: row.cells).map Records.bytesOf)
    (hstates : ∀ row ∈ rows, row.state ≠ "" ∧ IsTrim row.state)
    (hcells : ∀ row ∈ rows, ∀ cell ∈ row.cells, IsTrim cell)
    (hwidth : ∀ row ∈ rows, row.cells.length ≤ width) :
    ∃ read, rowsOf width (raws.map Record.ofRaw?) = .ok read ∧
      read.map content = rows.map content := by
  induction rows generalizing raws with
  | nil =>
      cases List.map_eq_nil_iff.1 hfields
      exact ⟨[], rfl, rfl⟩
  | cons row rows ih =>
      obtain ⟨raw, others, rfl, hraw, hothers⟩ := List.map_eq_cons_iff.1 hfields
      obtain ⟨⟨hstate, htrim⟩, hstates⟩ := List.forall_mem_cons.1 hstates
      obtain ⟨hrow, hcells⟩ := List.forall_mem_cons.1 hcells
      obtain ⟨hlength, hwidth⟩ := List.forall_mem_cons.1 hwidth
      obtain ⟨read, hread, hcontent⟩ := ih hothers hstates hcells hwidth
      have hrecord := Record.ofRaw?_of_fields hraw (List.forall_mem_cons.2 ⟨htrim, hrow⟩)
      have hblank : (⟨raw.line, row.state :: row.cells⟩ : Record).isBlank = false :=
        not_isBlank rfl hstate
      refine ⟨⟨raw.line, row.state, row.cells⟩ :: read, ?_, ?_⟩
      · rw [List.map_cons, hrecord, rowsOf, hblank, rowOf_written hstate hlength, hread]
        rfl
      · rw [List.map_cons, List.map_cons, hcontent]
        rfl

/-- The texts of a grid as they are written, record by record. -/
def texts (corner : String) (grid : Grid) : List (List String) :=
  (corner :: grid.events) :: grid.rows.map fun row => row.state :: row.cells

theorem render_eq (delimiter : UInt8) (corner : String) (grid : Grid) :
    render delimiter corner grid =
      (texts corner grid).flatMap (Records.renderRecord delimiter) := by
  rw [texts, List.flatMap_cons, List.flatMap_map, render]

theorem read_written {delimiter : UInt8} (hquote : delimiter ≠ Records.quote)
    (hfeed : delimiter ≠ Records.lineFeed) {corner : String} {grid : Grid}
    (hgrid : grid.Writable corner) :
    ∃ rows, read delimiter (render delimiter corner grid) = .ok ⟨grid.events, rows⟩ ∧
      rows.map content = grid.rows.map content := by
  have hrecords : ∀ record ∈ texts corner grid, record ≠ [] := by simp [texts]
  have hfields := Records.fields_ofBytes_render hquote hfeed hrecords
  rw [← render_eq, texts, List.map_cons, List.map_map] at hfields
  obtain ⟨header, raws, hraws, hheader, hrows⟩ := List.map_eq_cons_iff.1 hfields
  obtain ⟨rows, hread, hcontent⟩ := rowsOf_written hrows hgrid.states hgrid.cells hgrid.width
  have hrecord := Record.ofRaw?_of_fields hheader
    (List.forall_mem_cons.2 ⟨hgrid.corner_trim, hgrid.events⟩)
  have hblank : (⟨header.line, corner :: grid.events⟩ : Record).isBlank = false :=
    not_isBlank rfl hgrid.corner_ne
  refine ⟨rows, ?_, hcontent⟩
  rw [read, hraws, List.map_cons, hrecord, ofRecords, hblank]
  simp only [Bool.false_eq_true, if_false, List.drop_succ_cons, List.drop_zero, hread]
  rfl

/-- **A grid survives being written and read.** Whatever the delimiter, unless it is a line feed,
the events and, row by row, the states and cells are those that were written. -/
theorem read_render {config : Config} {corner : String} {grid : Grid}
    (hvalid : config.validate = .ok ()) (hfeed : config.delimiter ≠ '\n')
    (hgrid : grid.Writable corner) :
    ∃ delimiter rows, config.delimiterByte = .ok delimiter ∧
      read delimiter (render delimiter corner grid) = .ok ⟨grid.events, rows⟩ ∧
      rows.map content = grid.rows.map content := by
  obtain ⟨hascii, hreserved⟩ := Config.delimiter_of_validate hvalid
  have hne : config.delimiter ≠ '\x22' := fun heq =>
    hreserved (by simp [heq, Config.reservedDelimiters])
  have hquote := toUInt8_ne hascii (by decide) hne
  have hline := toUInt8_ne hascii (by decide) hfeed
  obtain ⟨rows, hread, hcontent⟩ := read_written hquote hline hgrid
  exact ⟨_, rows, Config.delimiterByte_of_validate hvalid, hread, hcontent⟩

/-- A grid with a delimiter, quotes, a line break and an empty text in its fields, and a row that is
shorter than the header. -/
def oddGrid : Grid where
  events := ["Go[a;b]", ""]
  rows := [⟨2, "A\r\n\"B\"", ["", "[x/C]\n[y/D]"]⟩, ⟨5, "C", []⟩, ⟨6, "\"", [";"]⟩]

theorem oddGrid_writable : oddGrid.Writable "State;" where
  corner_ne := by decide
  corner_trim := by decide
  events := by decide
  states := by decide
  cells := by decide
  width := by decide

theorem read_render_oddGrid :
    ({ delimiter := ';' } : Config).validate = .ok () ∧ oddGrid.Writable "State;" ∧
      ∃ delimiter rows, ({ delimiter := ';' } : Config).delimiterByte = .ok delimiter ∧
        read delimiter (render delimiter "State;" oddGrid) = .ok ⟨oddGrid.events, rows⟩ ∧
        rows.map content = oddGrid.rows.map content := by
  have hvalid : ({ delimiter := ';' } : Config).validate = .ok () := rfl
  exact ⟨hvalid, oddGrid_writable, read_render hvalid (by decide) oddGrid_writable⟩

end Grid

end GridMachine
