import GridMachine.Proofs.CellGrammar

/-!
What is told of a cell whose brackets do not balance. The numbers of its brackets decide it,
whatever stands between them. A cell with as many closing as opening brackets may still be malformed,
but the scanner never comes to its end within a group: it would have passed one more opening bracket
than closing ones.
-/

namespace GridMachine.Cell

open Text

variable {cell : String} {cs content : List Char} {c : Char}

/-! ### The end within a group -/

theorem unclosed_outside (h : groups none (c :: cs) = .error .unclosed) :
    c = '[' ∧ groups (some []) cs = .error .unclosed ∨
      isBlank c = true ∧ groups none cs = .error .unclosed := by
  rw [groups] at h
  split at h
  next hopening => exact .inl ⟨hopening, h⟩
  next =>
    split at h
    next hblank => exact .inr ⟨hblank, h⟩
    next => cases h

theorem unclosed_within (h : groups (some content) (c :: cs) = .error .unclosed) :
    c = ']' ∧ groups none cs = .error .unclosed ∨
      c ≠ '[' ∧ c ≠ ']' ∧ groups (some (content ++ [c])) cs = .error .unclosed := by
  rw [groups] at h
  split at h
  next hclosing =>
    cases htokens : groupTokens content with
    | error flaw =>
        rw [htokens] at h
        cases h
    | ok tokens =>
        rw [htokens] at h
        cases hgroups : groups none cs with
        | ok found =>
            rw [hgroups] at h
            cases h
        | error fault =>
            rw [hgroups] at h
            cases h
            exact .inl ⟨hclosing, rfl⟩
  next hclosing =>
    split at h
    next => cases h
    next hopening => exact .inr ⟨hopening, hclosing, h⟩

/-- How many brackets are open where the scanner stands. -/
def openBrackets : Option (List Char) → Nat
  | none => 0
  | some _ => 1

/-- The brackets that are open and those ahead: where the scanner comes to the end within a group,
one of them is not closed. -/
theorem count_of_unclosed {inside : Option (List Char)}
    (h : groups inside cs = .error .unclosed) :
    openBrackets inside + cs.count '[' = cs.count ']' + 1 := by
  induction cs generalizing inside with
  | nil =>
      cases inside with
      | none => cases h
      | some content => rfl
  | cons c cs ih =>
      cases inside with
      | none =>
          rcases unclosed_outside h with ⟨rfl, hnext⟩ | ⟨hblank, hnext⟩
          · have hrest := ih hnext
            simp only [openBrackets] at hrest
            simp [openBrackets]
            omega
          · have hopening : c ≠ '[' := ne_of_isBlank hblank rfl
            have hclosing : c ≠ ']' := ne_of_isBlank hblank rfl
            have hrest := ih hnext
            rw [List.count_cons_of_ne hopening, List.count_cons_of_ne hclosing]
            exact hrest
      | some content =>
          rcases unclosed_within h with ⟨rfl, hnext⟩ | ⟨hopening, hclosing, hnext⟩
          · have hrest := ih hnext
            simp only [openBrackets] at hrest
            simp [openBrackets]
            omega
          · have hrest := ih hnext
            rw [List.count_cons_of_ne hopening, List.count_cons_of_ne hclosing]
            exact hrest

/-- Among brackets that balance the scanner does not come to the end within a group. -/
theorem groups_ne_unclosed (hcounts : cs.count '[' = cs.count ']') :
    groups none cs ≠ .error .unclosed := by
  intro h
  have hunclosed := count_of_unclosed h
  simp only [openBrackets] at hunclosed
  omega

/-! ### What is told of a cell -/

theorem count_trim {mark : Char} (hmark : isBlank mark = false) :
    (trim cs).count mark = cs.count mark := by
  obtain ⟨left, right, hleft, hright, hcs⟩ := pads_trim cs
  have hnone : ∀ {blanks : List Char}, IsBlanks blanks → blanks.count mark = 0 := fun hblanks =>
    List.count_eq_zero.2 (not_mem_of_isBlanks hblanks hmark)
  conv_rhs => rw [hcs, List.count_append, List.count_append, hnone hleft, hnone hright]
  omega

theorem mem_trim_iff {mark : Char} (hmark : isBlank mark = false) : mark ∈ trim cs ↔ mark ∈ cs := by
  rw [← List.count_pos_iff, count_trim hmark, List.count_pos_iff]

theorem tokenize_of_unopened (hclosing : ']' ∈ cell.toList) (hopening : '[' ∉ cell.toList) :
    tokenize cell = .error (.missingOpeningBrace (String.ofList (trim cell.toList))) := by
  rw [← mem_trim_iff rfl] at hclosing hopening
  have hne : trim cell.toList ≠ [] := List.ne_nil_of_mem hclosing
  have hsome : (trim cell.toList).count ']' ≠ 0 := (List.count_pos_iff.2 hclosing).ne'
  simp [tokenize, hne, hsome, List.count_eq_zero.2 hopening]

theorem tokenize_of_unbalanced (hopening : '[' ∈ cell.toList)
    (hcounts : cell.toList.count '[' ≠ cell.toList.count ']') :
    tokenize cell = .error (.missingBrace (String.ofList (trim cell.toList))) := by
  rw [← mem_trim_iff rfl] at hopening
  have hne : trim cell.toList ≠ [] := List.ne_nil_of_mem hopening
  have hsome : (trim cell.toList).count '[' ≠ 0 := (List.count_pos_iff.2 hopening).ne'
  have htrimmed : (trim cell.toList).count '[' ≠ (trim cell.toList).count ']' := by
    rwa [count_trim rfl, count_trim rfl]
  simp [tokenize, hne, hsome, htrimmed]

theorem tokenize_of_balanced (hcounts : cell.toList.count '[' = cell.toList.count ']') :
    (∃ groups, tokenize cell = .ok groups) ∨
      ∃ flaw, tokenize cell = .error (.malformed (String.ofList (trim cell.toList)) flaw) := by
  have htrimmed : (trim cell.toList).count '[' = (trim cell.toList).count ']' := by
    rwa [count_trim rfl, count_trim rfl]
  by_cases hempty : trim cell.toList = []
  · exact .inl ⟨[], by simp [tokenize, hempty]⟩
  by_cases hclosing : (trim cell.toList).count ']' = 0
  · cases hsplit : splitTokens (trim cell.toList) with
    | ok tokens => exact .inl ⟨_, by simp [tokenize, hempty, htrimmed, hclosing, hsplit]; rfl⟩
    | error flaw => exact .inr ⟨flaw, by simp [tokenize, hempty, htrimmed, hclosing, hsplit]⟩
  · cases hgroups : groups none (trim cell.toList) with
    | ok found => exact .inl ⟨_, by simp [tokenize, hempty, htrimmed, hclosing, hgroups]; rfl⟩
    | error fault =>
        cases fault with
        | flaw flaw =>
            exact .inr ⟨flaw, by simp [tokenize, hempty, htrimmed, hclosing, hgroups]⟩
        | unclosed => exact absurd hgroups (groups_ne_unclosed htrimmed)

theorem count_eq_iff : cs.count '[' = cs.count ']' ↔
    ¬(']' ∈ cs ∧ '[' ∉ cs) ∧ ¬('[' ∈ cs ∧ cs.count '[' ≠ cs.count ']') := by
  rw [← List.count_pos_iff, ← List.count_pos_iff]
  omega

/-- **The numbers of brackets decide what is told of them.** A cell lacks an opening bracket if it
has closing ones only, and it lacks some bracket if it has opening ones but not as many closing
ones; every other cell is read or is malformed. For where the brackets balance, the scanner does not
come to the end within a group. -/
theorem tokenize_tells_by_counts (cell : String) :
    (∀ text, tokenize cell = .error (.missingOpeningBrace text) ↔
      (']' ∈ cell.toList ∧ '[' ∉ cell.toList) ∧ text = String.ofList (trim cell.toList)) ∧
    (∀ text, tokenize cell = .error (.missingBrace text) ↔
      ('[' ∈ cell.toList ∧ cell.toList.count '[' ≠ cell.toList.count ']') ∧
        text = String.ofList (trim cell.toList)) ∧
    ((∃ groups, tokenize cell = .ok groups) ∨
        (∃ flaw, tokenize cell = .error (.malformed (String.ofList (trim cell.toList)) flaw)) ↔
      ¬(']' ∈ cell.toList ∧ '[' ∉ cell.toList) ∧
        ¬('[' ∈ cell.toList ∧ cell.toList.count '[' ≠ cell.toList.count ']')) ∧
    ∀ cs : List Char, cs.count '[' = cs.count ']' → groups none cs ≠ .error .unclosed := by
  rw [← and_assoc, ← and_assoc]
  refine ⟨?_, fun cs => groups_ne_unclosed⟩
  by_cases hunopened : ']' ∈ cell.toList ∧ '[' ∉ cell.toList
  · simp [tokenize_of_unopened hunopened.1 hunopened.2, hunopened, eq_comm]
  by_cases hunbalanced : '[' ∈ cell.toList ∧ cell.toList.count '[' ≠ cell.toList.count ']'
  · simp [tokenize_of_unbalanced hunbalanced.1 hunbalanced.2, hunbalanced, eq_comm]
  · have hbalanced := tokenize_of_balanced (count_eq_iff.2 ⟨hunopened, hunbalanced⟩)
    refine ⟨⟨fun text => ?_, fun text => ?_⟩, iff_of_true hbalanced ⟨hunopened, hunbalanced⟩⟩
    · rcases hbalanced with ⟨groups, h⟩ | ⟨flaw, h⟩ <;> simp [h, hunopened]
    · rcases hbalanced with ⟨groups, h⟩ | ⟨flaw, h⟩ <;> simp [h, hunbalanced]

/-- The brackets balance, but they stand the wrong way round. -/
theorem tokenize_tells_by_counts_turned :
    "]a/b[".toList.count '[' = "]a/b[".toList.count ']' ∧
      groups none "]a/b[".toList ≠ .error .unclosed ∧
      ∃ flaw, tokenize "]a/b[" = .error (.malformed "]a/b[" flaw) := by
  obtain ⟨-, -, -, hscanner⟩ := tokenize_tells_by_counts "]a/b["
  have hcounts : "]a/b[".toList.count '[' = "]a/b[".toList.count ']' := by decide
  exact ⟨hcounts, hscanner _ hcounts, .textOutsideBrackets, by decide +kernel⟩

end GridMachine.Cell
