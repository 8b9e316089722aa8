import GridMachine.Proofs.Check
import GridMachine.Proofs.Text

/-!
The language of headers. A header, apart from the blanks around it, is the name of an event, or a
name and a list of roles between brackets with commas between the roles. A header is read exactly if
it belongs to this language, and an event that has been read is read again from what is shown of it.
-/

namespace GridMachine.Header

open Text

/-- Whether a text can be a name or a role with blanks around it: something is left when it is
trimmed, and there is no bracket in it. -/
structure IsLabel (cs : List Char) : Prop where
  nonblank : trim cs ≠ []
  noOpening : '[' ∉ cs
  noClosing : ']' ∉ cs

/-- The texts without blanks around them that events are written as. -/
inductive Writes : Event → List Char → Prop where
  | plain {name : List Char} (isLabel : IsLabel name) :
      Writes (.unrestricted (.ofList name)) name
  /-- Between the brackets there is at least one role, and there is nothing behind them. -/
  | restricted {name : List Char} {roles : List (List Char)} (isLabel : IsLabel name)
      (nonempty : roles ≠ []) (areLabels : ∀ role ∈ roles, IsLabel role)
      (unseparated : ∀ role ∈ roles, ',' ∉ role) :
      Writes (.restricted (.ofList (trim name)) (roles.map fun role => .ofList (trim role)))
        (name ++ '[' :: ([','].intercalate roles ++ [']']))

variable {cs content name : List Char} {header text : String} {event : Event} {roles : List String}

theorem IsLabel.trimmed (h : IsLabel cs) : IsLabel (trim cs) where
  nonblank := by rw [trim_trim]; exact h.nonblank
  noOpening hmem := h.noOpening (mem_of_mem_trim hmem)
  noClosing hmem := h.noClosing (mem_of_mem_trim hmem)

/-! ### Roles -/

theorem not_mem_intercalate {separator c : Char} {pieces : List (List Char)} (hc : c ≠ separator)
    (h : ∀ piece ∈ pieces, c ∉ piece) : c ∉ [separator].intercalate pieces := by
  intro hmem
  obtain ⟨piece, hpiece, hc⟩ := mem_intercalate hmem hc
  exact h piece hpiece hc

theorem parseRoles_eq_ok_iff :
    parseRoles header content = .ok roles ↔
      '[' ∉ content ∧ (∀ piece ∈ splitOn ',' content, trim piece ≠ []) ∧
        roles = (splitOn ',' content).map fun piece => .ofList (trim piece) := by
  have hany : ((splitOn ',' content).map trim).any List.isEmpty = true ↔
      ¬∀ piece ∈ splitOn ',' content, trim piece ≠ [] := by simp
  unfold parseRoles
  by_cases hopening : '[' ∈ content
  · simp [hopening]
  by_cases hblank : trim content = []
  · -- a blank text between the brackets is a single piece
    have hcomma : ',' ∉ content := fun hmem =>
      absurd (trim_eq_nil_iff.1 hblank ',' hmem) (by decide)
    simp [hopening, hblank, splitOn_eq_singleton hcomma]
  by_cases hpieces : ∀ piece ∈ splitOn ',' content, trim piece ≠ []
  · have hnone := mt hany.1 (not_not.2 hpieces)
    simp only [Bool.not_eq_true] at hnone
    have hmap : ((splitOn ',' content).map trim).map String.ofList =
        (splitOn ',' content).map fun piece => .ofList (trim piece) := List.map_map
    simp only [hopening, hblank, hnone, List.contains_eq_mem, List.isEmpty_iff, decide_false,
      Bool.false_eq_true, if_false, Except.ok.injEq, hmap, not_false_eq_true, true_and]
    exact ⟨fun heq => ⟨hpieces, heq.symm⟩, fun h => h.2.symm⟩
  · simp only [hany.2 hpieces]
    simp [hopening, hblank, hpieces]

/-! ### Headers -/

theorem parse_of_unbracketed (hopening : '[' ∉ trim text.toList)
    (hclosing : ']' ∉ trim text.toList) :
    parse text = .ok event ↔
      trim text.toList ≠ [] ∧ event = .unrestricted (.ofList (trim text.toList)) := by
  unfold parse
  simp only [splitFirst?_eq_none_iff.2 hopening, splitFirst?_eq_none_iff.2 hclosing]
  by_cases hempty : trim text.toList = []
  · simp [hempty]
  · simp [hempty, @eq_comm _ event]

theorem parse_of_closed (htext : trim text.toList = name ++ '[' :: (content ++ [']']))
    (hopening : '[' ∉ name) (hname : ']' ∉ name) (hcontent : ']' ∉ content) :
    parse text = .ok event ↔ trim name ≠ [] ∧
      ∃ roles, parseRoles (.ofList (trim text.toList)) content = .ok roles ∧
        event = .restricted (.ofList (trim name)) roles := by
  have hfirst : splitFirst? '[' (trim text.toList) = some (name, content ++ [']']) :=
    splitFirst?_eq_some_iff.2 ⟨htext, hopening⟩
  have hlast : splitFirst? ']' (trim text.toList) = some (name ++ '[' :: content, []) := by
    refine splitFirst?_eq_some_iff.2 ⟨?_, ?_⟩
    · rw [htext, List.append_assoc, List.cons_append]
    · simp [hname, hcontent]
  unfold parse
  have hlength : ¬(name ++ '[' :: content).length < name.length := by simp
  simp only [hfirst, hlast, if_neg hlength, List.isEmpty_nil, Bool.not_true, Bool.false_eq_true,
    if_false, List.dropLast_concat]
  by_cases hempty : trim name = []
  · simp [hempty]
  · cases hroles : parseRoles (.ofList (trim text.toList)) content <;>
      simp [hempty, @eq_comm _ event]

/-- In a text that ends with its first closing bracket, an opening one stands before it. -/
theorem exists_content_of_closed {cs name afterOpening beforeClosing : List Char}
    (hopening : cs = name ++ '[' :: afterOpening) (hclosing : cs = beforeClosing ++ [']'])
    (hfirst : ']' ∉ beforeClosing) :
    ∃ content, cs = name ++ '[' :: (content ++ [']']) ∧ ']' ∉ name ∧ ']' ∉ content := by
  rcases List.append_eq_append_iff.1 (hopening.symm.trans hclosing) with
    ⟨inner, rfl, hinner⟩ | ⟨inner, -, hinner⟩
  · cases inner with
    | nil => simp at hinner
    | cons first content =>
        obtain ⟨rfl, rfl⟩ := List.cons.inj hinner
        simp only [List.mem_append, List.mem_cons, not_or] at hfirst
        exact ⟨content, hopening, hfirst.1, hfirst.2.2⟩
  · cases inner <;> simp at hinner

/-- Where there are brackets, one opens after the name and one closes at the end of the text. -/
theorem exists_closed_of_parse (h : parse text = .ok event)
    (hbrackets : '[' ∈ trim text.toList ∨ ']' ∈ trim text.toList) :
    ∃ name content, trim text.toList = name ++ '[' :: (content ++ [']']) ∧
      '[' ∉ name ∧ ']' ∉ name ∧ ']' ∉ content := by
  unfold parse at h
  cases hfirst : splitFirst? '[' (trim text.toList) with
  | none =>
      have hopening := splitFirst?_eq_none_iff.1 hfirst
      cases hlast : splitFirst? ']' (trim text.toList) with
      | none => exact absurd hbrackets (not_or.2 ⟨hopening, splitFirst?_eq_none_iff.1 hlast⟩)
      | some _ =>
          simp only [hfirst, hlast] at h
          contradiction
  | some opening =>
      obtain ⟨name, afterOpening⟩ := opening
      obtain ⟨htext, hopening⟩ := splitFirst?_eq_some_iff.1 hfirst
      cases hlast : splitFirst? ']' (trim text.toList) with
      | none =>
          simp only [hfirst, hlast] at h
          contradiction
      | some closing =>
          obtain ⟨beforeClosing, afterClosing⟩ := closing
          obtain ⟨htext', hclosing⟩ := splitFirst?_eq_some_iff.1 hlast
          simp only [hfirst, hlast] at h
          split at h
          · contradiction
          split at h
          · contradiction
          next hafter =>
            have hnil : afterClosing = [] := by simpa using hafter
            subst hnil
            obtain ⟨content, hcontent⟩ := exists_content_of_closed htext htext' hclosing
            exact ⟨name, content, hcontent.1, hopening, hcontent.2⟩

theorem writes_of_parse (h : parse text = .ok event) : Writes event (trim text.toList) := by
  by_cases hbrackets : '[' ∈ trim text.toList ∨ ']' ∈ trim text.toList
  · obtain ⟨name, content, htext, hopening, hname, hcontent⟩ := exists_closed_of_parse h hbrackets
    obtain ⟨hne, roles, hroles, rfl⟩ := (parse_of_closed htext hopening hname hcontent).1 h
    obtain ⟨hnested, hpieces, rfl⟩ := parseRoles_eq_ok_iff.1 hroles
    have hlabels : ∀ piece ∈ splitOn ',' content, IsLabel piece := fun piece hpiece =>
      { nonblank := hpieces piece hpiece
        noOpening := fun hmem => hnested (mem_and_ne_of_mem_splitOn hpiece hmem).1
        noClosing := fun hmem => hcontent (mem_and_ne_of_mem_splitOn hpiece hmem).1 }
    obtain ⟨hsome, hcommas, hjoined⟩ := splitOn_eq_iff.1 (rfl : splitOn ',' content = _)
    have hwrites := Writes.restricted ⟨hne, hopening, hname⟩ hsome hlabels hcommas
    rwa [hjoined, ← htext] at hwrites
  · obtain ⟨hopening, hclosing⟩ := not_or.1 hbrackets
    obtain ⟨hne, rfl⟩ := (parse_of_unbracketed hopening hclosing).1 h
    exact .plain ⟨by rwa [trim_trim], hopening, hclosing⟩

theorem parse_of_writes (h : Writes event (trim text.toList)) : parse text = .ok event := by
  generalize htext : trim text.toList = cs at h
  cases h with
  | plain isLabel =>
      subst htext
      have hne := isLabel.nonblank
      rw [trim_trim] at hne
      exact (parse_of_unbracketed isLabel.noOpening isLabel.noClosing).2 ⟨hne, rfl⟩
  | @restricted name roles isLabel nonempty areLabels unseparated =>
      have hsplit : splitOn ',' ([','].intercalate roles) = roles :=
        splitOn_eq_iff.2 ⟨nonempty, unseparated, rfl⟩
      have hopening : '[' ∉ [','].intercalate roles :=
        not_mem_intercalate (by decide) fun role hrole => (areLabels role hrole).noOpening
      have hclosing : ']' ∉ [','].intercalate roles :=
        not_mem_intercalate (by decide) fun role hrole => (areLabels role hrole).noClosing
      have hroles : parseRoles (.ofList (trim text.toList)) ([','].intercalate roles) =
          .ok (roles.map fun role => .ofList (trim role)) := by
        rw [parseRoles_eq_ok_iff, hsplit]
        exact ⟨hopening, fun role hrole => (areLabels role hrole).nonblank, rfl⟩
      exact (parse_of_closed htext isLabel.noOpening isLabel.noClosing hclosing).2
        ⟨isLabel.nonblank, _, hroles, rfl⟩

theorem parse_eq_ok_iff : parse text = .ok event ↔ Writes event (trim text.toList) :=
  ⟨writes_of_parse, parse_of_writes⟩

/-! ### Events as they are shown -/

/-- What is shown of an event is the header with the blanks around its name and roles left out. -/
theorem Writes.display (h : Writes event cs) (hcs : IsTrimmed cs) :
    IsTrimmed event.display.toList ∧ Writes event event.display.toList := by
  cases h with
  | plain isLabel =>
      rw [show (Event.unrestricted (.ofList cs)).display = .ofList cs from rfl, String.toList_ofList]
      exact ⟨hcs, .plain isLabel⟩
  | @restricted name roles isLabel nonempty areLabels unseparated =>
      have hshown : (Event.restricted (.ofList (trim name))
            (roles.map fun role => .ofList (trim role))).display.toList =
          trim name ++ ('[' :: [','].intercalate (roles.map trim) ++ [']']) := by
        simp [Event.display, Event.restricted, joinWith, Function.comp_def]
      have hwrites : Writes (.restricted (.ofList (trim (trim name)))
            ((roles.map trim).map fun role => .ofList (trim role)))
          (trim name ++ '[' :: ([','].intercalate (roles.map trim) ++ [']'])) :=
        .restricted isLabel.trimmed (by simpa)
          (by simpa using fun role hrole => (areLabels role hrole).trimmed)
          (by simpa using fun role hrole hmem => unseparated role hrole (mem_of_mem_trim hmem))
      rw [hshown]
      refine ⟨(isTrimmed_trim name).append ⟨by simp; decide, by simp; decide⟩ isLabel.nonblank
        (by simp) _, ?_⟩
      simpa [Function.comp_def] using hwrites

/-- **The headers that are read.** A header is read as an event exactly if it is written for the
event, apart from the blanks around it; columns are compared by the names of their events; and what
is shown of an event that was read is read as the same event with the same roles. -/
theorem parse_reads_grammar (text : String) (event : Event) :
    (parse text = .ok event ↔ Writes event (trim text.toList)) ∧
      (parse text = .ok event → eventName text = event.name ∧ parse event.display = .ok event) := by
  refine ⟨parse_eq_ok_iff, fun h => ⟨eventName_of_parse h, ?_⟩⟩
  obtain ⟨htrimmed, hwrites⟩ := (writes_of_parse h).display (isTrimmed_trim text.toList)
  rw [parse_eq_ok_iff, htrimmed.trim_eq]
  exact hwrites

/-- A header with blanks of several kinds around its name, its roles and itself. -/
theorem parse_reads_grammar_decide :
    parse "\tDecide anew\u00a0[ lead ,\u2003deputy head] " =
      .ok (.restricted "Decide anew" ["lead", "deputy head"]) ∧
    Writes (.restricted "Decide anew" ["lead", "deputy head"])
      "Decide anew\u00a0[ lead ,\u2003deputy head]".toList ∧
    eventName "\tDecide anew\u00a0[ lead ,\u2003deputy head] " = "Decide anew" ∧
    parse "Decide anew[lead,deputy head]" =
      .ok (.restricted "Decide anew" ["lead", "deputy head"]) := by
  obtain ⟨hgrammar, hshown⟩ :=
    parse_reads_grammar "\tDecide anew\u00a0[ lead ,\u2003deputy head] "
      (.restricted "Decide anew" ["lead", "deputy head"])
  have hparse : parse "\tDecide anew\u00a0[ lead ,\u2003deputy head] " =
      .ok (.restricted "Decide anew" ["lead", "deputy head"]) := by decide +kernel
  have htrim : trim "\tDecide anew\u00a0[ lead ,\u2003deputy head] ".toList =
      "Decide anew\u00a0[ lead ,\u2003deputy head]".toList := by decide +kernel
  have hdisplay : (Event.restricted "Decide anew" ["lead", "deputy head"]).display =
      "Decide anew[lead,deputy head]" := by decide +kernel
  rw [← htrim, ← hdisplay]
  exact ⟨hparse, hgrammar.1 hparse, hshown hparse⟩

end GridMachine.Header
