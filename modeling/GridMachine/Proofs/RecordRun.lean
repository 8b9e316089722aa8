import GridMachine.Grid.Records

/-!
How bytes are read as records, part by part. Bytes either pass without ending a record or complete
records one after the other, and what a text comes to is put together from its parts. The line that
a record is given is the one that was reached when the record before it ended.
-/

namespace GridMachine.Records

namespace State

/-- The state between two records. -/
def between (line : Nat) : State := ⟨.recordStart, line, line, [], []⟩

/-- Reading bytes that end no record. -/
inductive Passes (delimiter : UInt8) : State → List UInt8 → State → Prop where
  | done (state : State) : Passes delimiter state [] state
  | next {state middle last : State} {b : UInt8} {bytes : List UInt8}
      (step : state.step delimiter b = (middle, none)) (rest : Passes delimiter middle bytes last) :
      Passes delimiter state (b :: bytes) last

/-- Reading bytes of which the last one ends the last of the records, if there are any. -/
inductive Completes (delimiter : UInt8) : State → List UInt8 → List RawRecord → State → Prop where
  | nothing (state : State) : Completes delimiter state [] [] state
  | record {state middle next last : State} {bytes more : List UInt8} {b : UInt8}
      {record : RawRecord} {records : List RawRecord} (passes : Passes delimiter state bytes middle)
      (ends : middle.step delimiter b = (next, some record))
      (rest : Completes delimiter next more records last) :
      Completes delimiter state (bytes ++ b :: more) (record :: records) last

variable {delimiter b : UInt8} {state next last : State} {bytes more : List UInt8}
  {record : RawRecord} {records : List RawRecord}

/-! ### One byte -/

/-- The state with a byte counted, before it is looked at. -/
def counting (state : State) (b : UInt8) : State :=
  { state with line := state.line + [b].count lineFeed }

theorem step_eq (delimiter : UInt8) (state : State) (b : UInt8) :
    state.step delimiter b =
      match state.mode with
      | .recordStart =>
          if isLineBreak b then (state.counting b, none)
          else (state.counting b).stepField delimiter b
      | .fieldStart => (state.counting b).stepField delimiter b
      | .unquoted => (state.counting b).stepUnquoted delimiter b
      | .quoted =>
          if b == quote then ({ state.counting b with mode := .quoteInQuoted }, none)
          else ((state.counting b).add .quoted b, none)
      | .quoteInQuoted =>
          if b == quote then ((state.counting b).add .quoted b, none)
          else (state.counting b).stepUnquoted delimiter b := by
  have hcounting : (if b == lineFeed then { state with line := state.line + 1 } else state) =
      state.counting b := by
    by_cases hb : b = lineFeed <;> simp [counting, hb]
  rw [← hcounting]
  by_cases hb : b = lineFeed
  · cases hmode : state.mode <;> simp [step, hb, hmode]
  · cases hmode : state.mode <;> simp [step, hb, hmode]

/-- What a byte does within a record: it leads on in the record, or it is a line break and ends
it. -/
inductive Inside (state : State) (b : UInt8) : State × Option RawRecord → Prop where
  | on {next : State} (mode : next.mode ≠ .recordStart)
      (startLine : next.startLine = state.startLine) (line : next.line = state.line) :
      Inside state b (next, none)
  | ends (lineBreak : isLineBreak b = true) :
      Inside state b (between state.line, some state.record)

theorem inside_stepUnquoted (delimiter : UInt8) (state : State) (b : UInt8) :
    Inside state b (state.stepUnquoted delimiter b) := by
  unfold stepUnquoted
  split
  · exact .on nofun rfl rfl
  · split
    next hb => exact .ends hb
    next => exact .on nofun rfl rfl

theorem inside_stepField (delimiter : UInt8) (state : State) (b : UInt8) :
    Inside state b (state.stepField delimiter b) := by
  unfold stepField
  split
  · exact .on nofun rfl rfl
  · exact inside_stepUnquoted delimiter state b

theorem inside_step (delimiter : UInt8)
    (h : state.mode ≠ .recordStart ∨ isLineBreak b = false) :
    Inside (state.counting b) b (state.step delimiter b) := by
  rw [step_eq]
  cases hmode : state.mode with
  | recordStart =>
      have hb : isLineBreak b = false := h.resolve_left fun hne => hne hmode
      simp only [hb, Bool.false_eq_true, if_false]
      exact inside_stepField delimiter _ b
  | fieldStart => exact inside_stepField delimiter _ b
  | unquoted => exact inside_stepUnquoted delimiter _ b
  | quoted =>
      dsimp only
      split
      · exact .on nofun rfl rfl
      · exact .on nofun rfl rfl
  | quoteInQuoted =>
      dsimp only
      split
      · exact .on nofun rfl rfl
      · exact inside_stepUnquoted delimiter _ b

theorem step_gap (hmode : state.mode = .recordStart) (hb : isLineBreak b = true) :
    state.step delimiter b = (state.counting b, none) := by
  rw [step_eq, hmode]
  simp [hb]

/-- A record ends at a line break, has the line that was reached when the record before it had
ended, and leaves the reader between two records. -/
theorem step_eq_some (h : state.step delimiter b = (next, some record)) :
    next = between (state.line + [b].count lineFeed) ∧ record.line = state.startLine := by
  by_cases hinside : state.mode ≠ .recordStart ∨ isLineBreak b = false
  · have hstep := inside_step delimiter hinside
    rw [h] at hstep
    cases hstep with
    | ends lineBreak => exact ⟨rfl, rfl⟩
  · simp only [ne_eq, not_or, Decidable.not_not, Bool.not_eq_false] at hinside
    rw [step_gap hinside.1 hinside.2] at h
    cases h

theorem step_eq_none (h : state.step delimiter b = (next, none)) :
    next.line = state.line + [b].count lineFeed ∧ next.startLine = state.startLine := by
  by_cases hinside : state.mode ≠ .recordStart ∨ isLineBreak b = false
  · have hstep := inside_step delimiter hinside
    rw [h] at hstep
    cases hstep with
    | on mode startLine line => exact ⟨line, startLine⟩
  · simp only [ne_eq, not_or, Decidable.not_not, Bool.not_eq_false] at hinside
    rw [step_gap hinside.1 hinside.2] at h
    cases h
    exact ⟨rfl, rfl⟩

/-! ### Many bytes -/

theorem count_cons (b : UInt8) (bytes : List UInt8) :
    (b :: bytes).count lineFeed = [b].count lineFeed + bytes.count lineFeed := by
  rw [← List.singleton_append, List.count_append]

namespace Passes

theorem append {middle : State} (h : Passes delimiter state bytes middle)
    (h' : Passes delimiter middle more last) : Passes delimiter state (bytes ++ more) last := by
  induction h with
  | done => exact h'
  | next step rest ih => exact .next step (ih h')

theorem single (h : state.step delimiter b = (next, none)) : Passes delimiter state [b] next :=
  .next h (.done next)

theorem run_append (h : Passes delimiter state bytes last) (more : List UInt8) :
    state.run delimiter (bytes ++ more) = last.run delimiter more := by
  induction h with
  | done => rfl
  | next step rest ih =>
      rw [List.cons_append, run, step]
      exact ih

theorem line_eq (h : Passes delimiter state bytes last) :
    last.line = state.line + bytes.count lineFeed ∧ last.startLine = state.startLine := by
  induction h with
  | done => exact ⟨rfl, rfl⟩
  | @next state middle last b bytes step rest ih =>
      obtain ⟨hline, hstart⟩ := step_eq_none step
      have hcount := count_cons b bytes
      exact ⟨by omega, ih.2.trans hstart⟩

end Passes

namespace Completes

theorem run_append (h : Completes delimiter state bytes records last) (more : List UInt8) :
    state.run delimiter (bytes ++ more) = records ++ last.run delimiter more := by
  induction h with
  | nothing => rfl
  | record passes ends rest ih =>
      rw [List.append_assoc, passes.run_append, List.cons_append, run, ends]
      exact congrArg _ ih

/-- Between two records the reader has counted the line feeds so far. -/
theorem eq_between {line : Nat} (h : Completes delimiter (between line) bytes records last) :
    last = between (line + bytes.count lineFeed) := by
  generalize hstate : between line = state at h
  induction h generalizing line with
  | nothing => exact hstate.symm
  | @record state middle next last bytes more b record records passes ends rest ih =>
      subst hstate
      obtain ⟨hnext, -⟩ := step_eq_some ends
      obtain ⟨hline, -⟩ := passes.line_eq
      rw [ih hnext.symm, hline, List.count_append, count_cons b more, ← Nat.add_assoc,
        ← Nat.add_assoc]
      rfl

end Completes

end State

end GridMachine.Records
