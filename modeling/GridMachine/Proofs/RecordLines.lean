import GridMachine.Proofs.GridRecords
import GridMachine.Proofs.RecordRun

/-!
The lines that rows of a grid are reported with. A row has the line that the reader had reached when
the record before it ended. From there on line breaks are passed over: the second half of the line
break that ended the record, and empty lines. Hence the line falls short of the one on which the row
begins by the line feeds among these, and is right exactly if there are none.
-/

namespace GridMachine

namespace Records

/-- The line of the character that stands after the bytes of a text. -/
def lineAfter (bytes : List UInt8) : Nat := 1 + bytes.count lineFeed

namespace State

variable {delimiter : UInt8} {state : State} {bytes : List UInt8} {earlier later : List RawRecord}
  {record : RawRecord} {line : Nat}

/-- Before a record the reader passes over a gap of line breaks and then enters the record. -/
theorem run_gap (hmode : state.mode = .recordStart)
    (h : state.run delimiter bytes = record :: later) :
    ∃ gap first rest inside, bytes = gap ++ first :: rest ∧ (∀ b ∈ gap, isLineBreak b = true) ∧
      isLineBreak first = false ∧ Passes delimiter state (gap ++ [first]) inside ∧
      inside.mode ≠ .recordStart ∧ inside.startLine = state.startLine ∧
      inside.run delimiter rest = record :: later := by
  induction bytes generalizing state with
  | nil => simp [run, hmode] at h
  | cons b bytes ih =>
      rw [run] at h
      by_cases hb : isLineBreak b = true
      · -- counting a line feed does not move the line on which the next record is said to start
        have hstep : state.step delimiter b = (state.counting b, none) := step_gap hmode hb
        rw [hstep] at h
        obtain ⟨gap, first, rest, inside, rfl, hgap, hfirst, hpasses, hinside⟩ :=
          @ih (state.counting b) hmode h
        exact ⟨b :: gap, first, rest, inside, rfl, List.forall_mem_cons.2 ⟨hb, hgap⟩, hfirst,
          .next hstep hpasses, hinside⟩
      · have hfirst : isLineBreak b = false := Bool.eq_false_iff.2 hb
        have hinside : Inside (state.counting b) b (state.step delimiter b) :=
          inside_step delimiter (.inr hfirst)
        cases hstep : state.step delimiter b with
        | mk next ended =>
            rw [hstep] at h hinside
            cases hinside with
            | ends lineBreak => exact absurd lineBreak hb
            | on mode startLine _ =>
                exact ⟨[], b, bytes, next, rfl, by simp, hfirst, .single hstep, mode, startLine, h⟩

/-- Within a record the bytes run out, or they come to the line break that ends it. -/
theorem run_inside (hmode : state.mode ≠ .recordStart)
    (h : state.run delimiter bytes = record :: later) :
    record.line = state.startLine ∧ (later = [] ∨ ∃ body b more middle next,
      bytes = body ++ b :: more ∧ Passes delimiter state body middle ∧
      middle.step delimiter b = (between next, some record) ∧
      (between next).run delimiter more = later) := by
  induction bytes generalizing state with
  | nil =>
      rw [run, if_neg hmode] at h
      cases h
      exact ⟨rfl, .inl rfl⟩
  | cons b bytes ih =>
      have hinside : Inside (state.counting b) b (state.step delimiter b) :=
        inside_step delimiter (.inl hmode)
      rw [run] at h
      cases hstep : state.step delimiter b with
      | mk next ended =>
          rw [hstep] at h hinside
          cases hinside with
          | ends lineBreak =>
              cases h
              exact ⟨rfl, .inr ⟨[], b, bytes, state, _, rfl, .done state, hstep, rfl⟩⟩
          | on mode startLine _ =>
              obtain ⟨hline, hlater⟩ := ih mode h
              refine ⟨hline.trans startLine, hlater.imp id ?_⟩
              rintro ⟨body, c, more, middle, after, rfl, hpasses, hends, hmore⟩
              exact ⟨b :: body, c, more, middle, after, rfl, .next hstep hpasses, hends, hmore⟩

/-- The first record begins behind a gap of line breaks and has the line from before the gap. If
there are more records, some line break ends it. -/
theorem first_place (h : (between line).run delimiter bytes = record :: later) :
    (∃ gap first rest, bytes = gap ++ first :: rest ∧ (∀ b ∈ gap, isLineBreak b = true) ∧
      isLineBreak first = false ∧ record.line = line) ∧
    (later = [] ∨ ∃ body b more middle next, bytes = body ++ b :: more ∧
      Passes delimiter (between line) body middle ∧
      middle.step delimiter b = (between next, some record) ∧
      (between next).run delimiter more = later) := by
  obtain ⟨gap, first, rest, inside, rfl, hgap, hfirst, hinto, hmode, hstart, hrun⟩ :=
    run_gap rfl h
  obtain ⟨hline, hlater⟩ := run_inside hmode hrun
  refine ⟨⟨gap, first, rest, rfl, hgap, hfirst, hline.trans hstart⟩, hlater.imp id ?_⟩
  rintro ⟨body, b, more, middle, next, rfl, hpasses, hends, hmore⟩
  exact ⟨gap ++ [first] ++ body, b, more, middle, next, by simp, hinto.append hpasses, hends, hmore⟩

/-- Every record begins behind a gap of line breaks after all that its forerunners complete, and its
line is counted without the gap. -/
theorem exists_place (h : (between line).run delimiter bytes = earlier ++ record :: later) :
    ∃ before gap first rest, bytes = before ++ (gap ++ first :: rest) ∧
      Completes delimiter (between line) before earlier (between record.line) ∧
      (∀ b ∈ gap, isLineBreak b = true) ∧ isLineBreak first = false ∧
      record.line = line + before.count lineFeed := by
  induction earlier generalizing line bytes with
  | nil =>
      obtain ⟨⟨gap, first, rest, hbytes, hgap, hfirst, hline⟩, -⟩ := first_place h
      refine ⟨[], gap, first, rest, hbytes, ?_, hgap, hfirst, hline⟩
      rw [hline]
      exact .nothing _
  | cons forerunner earlier ih =>
      obtain ⟨-, hlater | ⟨body, b, more, middle, next, rfl, hpasses, hends, hmore⟩⟩ :=
        first_place h
      · simp at hlater
      · -- behind the forerunner the reader is between records again, only on a later line
        obtain ⟨before, gap, first, rest, rfl, hcompletes, hgap, hfirst, hline⟩ := ih hmore
        have hall := Completes.record hpasses hends hcompletes
        have hlast := congrArg State.line hall.eq_between
        exact ⟨body ++ b :: before, gap, first, rest, by simp, hall, hgap, hfirst, hlast⟩

end State

/-- Where a record begins, given how many records are before it: `before` is what the reader has
read when the last of these has ended, and `gap` are the line breaks from there to the first
character of the record. -/
structure Begins (delimiter : UInt8) (text : List UInt8) (index : Nat) (before gap : List UInt8) :
    Prop where
  completes : ∃ last,
    State.Completes delimiter .start before ((ofBytes delimiter text).take index) last
  lineBreaks : ∀ b ∈ gap, isLineBreak b = true
  first : ∃ first rest, isLineBreak first = false ∧
    dropByteOrderMark text = before ++ (gap ++ first :: rest)

/-- A line that is reported for a record: the one on which the record before it ended. It is that of
the first character of the record only if there is no line feed in the gap. -/
def Reported (delimiter : UInt8) (text : List UInt8) (index line : Nat) : Prop :=
  (∃ before gap, Begins delimiter text index before gap) ∧
  ∀ before gap, Begins delimiter text index before gap →
    line = lineAfter before ∧ (line = lineAfter (before ++ gap) ↔ lineFeed ∉ gap)

variable {delimiter : UInt8} {text before gap : List UInt8} {index : Nat} {record : RawRecord}

theorem take_append_of_getElem? {α : Type} {xs : List α} {x : α} (h : xs[index]? = some x) :
    xs = xs.take index ++ x :: xs.drop (index + 1) := by
  obtain ⟨hlength, rfl⟩ := List.getElem?_eq_some_iff.1 h
  rw [List.getElem_cons_drop, List.take_append_drop]

theorem exists_begins (h : (ofBytes delimiter text)[index]? = some record) :
    ∃ before gap, Begins delimiter text index before gap := by
  have hrun : (State.between 1).run delimiter (dropByteOrderMark text) =
      (ofBytes delimiter text).take index ++ record :: (ofBytes delimiter text).drop (index + 1) :=
    take_append_of_getElem? h
  obtain ⟨before, gap, first, rest, htext, hcompletes, hgap, hfirst, -⟩ := State.exists_place hrun
  exact ⟨before, gap, ⟨_, hcompletes⟩, hgap, first, rest, hfirst, htext⟩

theorem Begins.line_eq (hbegins : Begins delimiter text index before gap)
    (h : (ofBytes delimiter text)[index]? = some record) : record.line = lineAfter before := by
  obtain ⟨⟨last, hcompletes⟩, -, first, rest, -, htext⟩ := hbegins
  have hlast : last = State.between (lineAfter before) := hcompletes.eq_between
  have hall : ofBytes delimiter text = (ofBytes delimiter text).take index ++
      (State.between (lineAfter before)).run delimiter (gap ++ first :: rest) := by
    rw [← hlast, ← hcompletes.run_append, ← htext]
    rfl
  have hrun := List.append_cancel_left ((take_append_of_getElem? h).symm.trans hall)
  exact (State.first_place hrun.symm).1.elim fun _ ⟨_, _, _, _, _, hline⟩ => hline

theorem reported (h : (ofBytes delimiter text)[index]? = some record) :
    Reported delimiter text index record.line := by
  refine ⟨exists_begins h, fun before gap hbegins => ?_⟩
  have hline := hbegins.line_eq h
  refine ⟨hline, ?_⟩
  rw [hline, lineAfter, lineAfter, List.count_append, ← List.count_eq_zero]
  omega

end Records

/-- The line that an error tells of. -/
def GridError.line? : GridError → Option Nat
  | .raggedRow line _ _ => some line
  | .emptyStateName line => some line
  | _ => none

namespace Grid

/-- What is made of an element that decodes to a record. -/
def Yields {α : Type} (decode : α → Option Record) (width : Nat) (row : Except GridError GridRow)
    (x : α) : Prop :=
  ∃ record, decode x = some record ∧ rowOf width record = row

section Rows

variable {α : Type} {decode : α → Option Record} {xs : List α} {width : Nat} {record : Record}
  {row : GridRow} {rows : List GridRow} {grid : Grid} {error : GridError}

theorem line_of_rowOf (h : rowOf width record = .ok row) : row.line = record.line := by
  obtain ⟨-, -, rfl⟩ := rowOf_eq_ok_iff.1 h
  rfl

theorem line_of_rowOf_error (h : rowOf width record = .error error) :
    error.line? = some record.line := by
  unfold rowOf at h
  split at h
  · cases h
    rfl
  · split at h
    · cases h
      rfl
    · split at h <;> cases h
      rfl

theorem yields_of_rowOf? {x : α} {result : Except GridError GridRow}
    (h : rowOf? width (decode x) = result) (hresult : result ≠ .error .undecodable) :
    Yields decode width result x := by
  cases hdecode : decode x with
  | none =>
      rw [hdecode] at h
      exact absurd h.symm hresult
  | some record =>
      rw [hdecode] at h
      exact ⟨record, hdecode, h⟩

theorem exists_sublist_of_rowsOf (h : rowsOf width (xs.map decode) = .ok rows) :
    ∃ ys : List α, ys.Sublist xs ∧
      List.Forall₂ (fun y row => Yields decode width (.ok row) y) ys rows := by
  rw [rowsOf_eq_mapM, List.filter_map, InOrder.mapM_eq_ok_iff, List.forall₂_map_left_iff] at h
  refine ⟨_, List.filter_sublist, h.imp fun x row hrow => ?_⟩
  exact yields_of_rowOf? hrow (by simp)

theorem exists_mem_of_rowsOf_error (h : rowsOf width (xs.map decode) = .error error)
    (hline : error.line? ≠ none) : ∃ x ∈ xs, Yields decode width (.error error) x := by
  rw [rowsOf_eq_mapM, List.filter_map, InOrder.mapM_eq_error_iff] at h
  obtain ⟨_, herror, hfirst⟩ := h
  obtain ⟨x, hx, rfl⟩ := List.mem_map.1 hfirst.mem
  refine ⟨x, List.mem_of_mem_filter hx, yields_of_rowOf? herror ?_⟩
  intro heq
  cases heq
  exact hline rfl

theorem rowsOf_of_ofRecords (h : ofRecords (xs.map decode) = .ok grid) :
    ∃ ys : List α, ys.Sublist xs ∧ rowsOf grid.events.length (ys.map decode) = .ok grid.rows := by
  induction xs with
  | nil => cases h
  | cons x xs ih =>
      rw [List.map_cons] at h
      cases hdecode : decode x with
      | none =>
          rw [hdecode] at h
          cases h
      | some record =>
          rw [hdecode, ofRecords] at h
          split at h
          · obtain ⟨ys, hys, hrows⟩ := ih h
            exact ⟨ys, hys.cons x, hrows⟩
          · obtain ⟨rows, hrows, h⟩ := InOrder.bind_eq_ok_iff.1 h
            cases h
            exact ⟨xs, List.sublist_cons_self x xs, hrows⟩

theorem rowsOf_of_ofRecords_error (h : ofRecords (xs.map decode) = .error error)
    (hline : error.line? ≠ none) :
    ∃ width, ∃ ys : List α, ys.Sublist xs ∧ rowsOf width (ys.map decode) = .error error := by
  induction xs with
  | nil =>
      cases h
      exact absurd rfl hline
  | cons x xs ih =>
      rw [List.map_cons] at h
      cases hdecode : decode x with
      | none =>
          rw [hdecode] at h
          cases h
          exact absurd rfl hline
      | some record =>
          rw [hdecode, ofRecords] at h
          split at h
          · obtain ⟨width, ys, hys, hrows⟩ := ih h
            exact ⟨width, ys, hys.cons x, hrows⟩
          · rcases InOrder.bind_eq_error_iff.1 h with hrows | ⟨rows, -, h⟩
            · exact ⟨_, xs, List.sublist_cons_self x xs, hrows⟩
            · cases h

end Rows

theorem line_of_yields {raw : Records.RawRecord} {width : Nat} {row : GridRow}
    (h : Yields Record.ofRaw? width (.ok row) raw) : row.line = raw.line := by
  obtain ⟨record, hdecode, hrow⟩ := h
  obtain ⟨fields, -, hrecord⟩ := Option.bind_eq_some_iff.1 hdecode
  cases hrecord
  exact line_of_rowOf hrow

theorem line_of_yields_error {raw : Records.RawRecord} {width : Nat} {error : GridError}
    (h : Yields Record.ofRaw? width (.error error) raw) : error.line? = some raw.line := by
  obtain ⟨record, hdecode, hrow⟩ := h
  obtain ⟨fields, -, hrecord⟩ := Option.bind_eq_some_iff.1 hdecode
  cases hrecord
  exact line_of_rowOf_error hrow

/-- **The lines that are reported.** The rows of a grid come from records of the text, one after the
other, and an error that tells of a line comes from one of them. The line is that on which the
record before it ended, so it is the line of the first character of the record exactly if no line
feed is passed over in between. -/
theorem read_lines (delimiter : UInt8) (text : List UInt8) :
    (∀ grid, read delimiter text = .ok grid →
      ∃ numbered : List (Records.RawRecord × Nat),
        numbered.Sublist (Records.ofBytes delimiter text).zipIdx ∧
        List.Forall₂ (fun entry row =>
          Yields Record.ofRaw? grid.events.length (.ok row) entry.1 ∧
            Records.Reported delimiter text entry.2 row.line) numbered grid.rows) ∧
    (∀ error line, read delimiter text = .error error → error.line? = some line →
      ∃ width index raw, (Records.ofBytes delimiter text)[index]? = some raw ∧
        Yields Record.ofRaw? width (.error error) raw ∧
        Records.Reported delimiter text index line) := by
  have hread : read delimiter text = ofRecords ((Records.ofBytes delimiter text).zipIdx.map
      fun entry => Record.ofRaw? entry.1) := by
    have hmap := List.map_map (f := Prod.fst) (g := Record.ofRaw?)
      (l := (Records.ofBytes delimiter text).zipIdx)
    rw [List.zipIdx_map_fst] at hmap
    exact congrArg ofRecords hmap
  have hindex : ∀ entry ∈ (Records.ofBytes delimiter text).zipIdx,
      (Records.ofBytes delimiter text)[entry.2]? = some entry.1 :=
    fun entry => List.mem_zipIdx_iff_getElem?.1
  constructor
  · intro grid hgrid
    obtain ⟨later, hlater, hrows⟩ := rowsOf_of_ofRecords (hread.symm.trans hgrid)
    obtain ⟨numbered, hnumbered, hforall⟩ := exists_sublist_of_rowsOf hrows
    have hsublist := hnumbered.trans hlater
    refine ⟨numbered, hsublist, ?_⟩
    have hmem := (List.forall₂_and_left _ _).2
      ⟨fun entry h => hindex entry (hsublist.subset h), hforall⟩
    refine hmem.imp fun entry row h => ⟨h.2, ?_⟩
    have hline : row.line = entry.1.line := line_of_yields h.2
    rw [hline]
    exact Records.reported h.1
  · intro error line herror hline
    have hne : error.line? ≠ none := by simp [hline]
    obtain ⟨width, later, hlater, hrows⟩ := rowsOf_of_ofRecords_error (hread.symm.trans herror) hne
    obtain ⟨entry, hentry, hyields⟩ := exists_mem_of_rowsOf_error hrows hne
    have hraw := hindex entry (hlater.subset hentry)
    have hreported := Records.reported hraw
    rw [line_of_yields_error hyields] at hline
    cases hline
    exact ⟨width, entry.2, entry.1, hraw, hyields, hreported⟩

/-- A text with a line break in a field and an empty line after it. -/
def brokenText : List UInt8 := Records.bytesOf "State,Go\nA,\"B\nC\"\n\nD,\n"

theorem read_lines_broken :
    read 0x2C brokenText = .ok ⟨["Go"], [⟨2, "A", ["B\nC"]⟩, ⟨4, "D", [""]⟩]⟩ ∧
      ∃ numbered : List (Records.RawRecord × Nat),
        numbered.Sublist (Records.ofBytes 0x2C brokenText).zipIdx ∧
        List.Forall₂ (fun entry row => Yields Record.ofRaw? 1 (.ok row) entry.1 ∧
            Records.Reported 0x2C brokenText entry.2 row.line) numbered
          [⟨2, "A", ["B\nC"]⟩, ⟨4, "D", [""]⟩] := by
  have hread : read 0x2C brokenText = .ok ⟨["Go"], [⟨2, "A", ["B\nC"]⟩, ⟨4, "D", [""]⟩]⟩ := by
    decide +kernel
  exact ⟨hread, (read_lines 0x2C brokenText).1 _ hread⟩

/-- A row after a carriage return and a line feed is reported with the line before its own. -/
theorem read_crlf_line :
    read 0x2C (Records.bytesOf "State,Go\r\nA,B\r\n") = .ok ⟨["Go"], [⟨1, "A", ["B"]⟩]⟩ ∧
      Records.Begins 0x2C (Records.bytesOf "State,Go\r\nA,B\r\n") 1 (Records.bytesOf "State,Go\r")
        [Records.lineFeed] ∧
      Records.lineAfter (Records.bytesOf "State,Go\r" ++ [Records.lineFeed]) = 2 := by
  have hpasses : Records.State.Passes 0x2C .start (Records.bytesOf "State,Go")
      ⟨.unquoted, 1, 1, [0x6F, 0x47], [[0x53, 0x74, 0x61, 0x74, 0x65]]⟩ :=
    .next rfl (.next rfl (.next rfl (.next rfl (.next rfl (.next rfl (.next rfl (.next rfl
      (.done _))))))))
  have hrecord :=
    Records.State.Completes.record (b := Records.carriageReturn) hpasses rfl (.nothing _)
  have hbreak : ∀ b ∈ [Records.lineFeed], Records.isLineBreak b = true := by
    simp [Records.isLineBreak]
  refine ⟨by decide +kernel, ⟨⟨_, hrecord⟩, hbreak, 0x41, _, rfl, rfl⟩, by decide +kernel⟩

end Grid

end GridMachine
