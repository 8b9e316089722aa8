import GridMachine.Loader.Check
import Mathlib.Data.List.Induction
import Mathlib.Data.List.Nodup

/-!
The checks that rules pass before they become a machine. All targets and all states of the default
path have a row, no state has two rows and no event has two columns. The name under which a column
is checked is the one that its event has.
-/

namespace GridMachine

/-! ### Texts that occur again -/

/-- Whether the two lists kept on the way tell what has occurred before and what of it again. -/
structure Recalls (before seen reported : List String) : Prop where
  mem_seen : ∀ text, text ∈ seen ↔ text ∈ before
  mem_reported : ∀ text, text ∈ reported ↔ 2 ≤ before.count text

variable {before seen reported : List String}

theorem repeatedIn_cons (seen reported : List String) (text : String) (texts : List String) :
    repeatedIn seen reported (text :: texts) =
      (if text ∈ seen ∧ text ∉ reported then [text] else []) ++
        repeatedIn (seen.insert text) (if text ∈ seen then reported.insert text else reported)
          texts := by
  by_cases hseen : text ∈ seen
  · by_cases hreported : text ∈ reported <;> simp [repeatedIn, hseen, hreported]
  · simp [repeatedIn, hseen]

namespace Recalls

variable (h : Recalls before seen reported)

include h

/-- A text is listed when it occurs for the second time. -/
theorem count_eq_one_iff {text : String} :
    before.count text = 1 ↔ text ∈ seen ∧ text ∉ reported := by
  rw [h.mem_seen, h.mem_reported, ← List.count_pos_iff]
  omega

theorem next (text : String) :
    Recalls (before ++ [text]) (seen.insert text)
      (if text ∈ seen then reported.insert text else reported) where
  mem_seen other := by
    rw [List.mem_insert_iff, h.mem_seen, List.mem_append, List.mem_singleton, or_comm]
  mem_reported other := by
    have hseen : text ∈ seen ↔ 0 < before.count text := by rw [h.mem_seen, List.count_pos_iff]
    have hreported := h.mem_reported other
    by_cases heq : other = text
    · subst heq
      have hcount : (before ++ [other]).count other = before.count other + 1 := by simp
      rw [hcount]
      by_cases hmem : other ∈ seen
      · have hpos := hseen.1 hmem
        rw [if_pos hmem, List.mem_insert_iff]
        exact iff_of_true (.inl rfl) (by omega)
      · have hnone := mt hseen.2 hmem
        rw [if_neg hmem, hreported]
        omega
    · have hcount : (before ++ [text]).count other = before.count other := by
        simp [Ne.symm heq]
      rw [hcount, ← hreported]
      split <;> simp [heq]

/-- The last of several texts is listed if it occurs just once before. -/
theorem repeatedIn_append_singleton (texts : List String) (last : String) :
    repeatedIn seen reported (texts ++ [last]) =
      repeatedIn seen reported texts ++
        if (before ++ texts).count last = 1 then [last] else [] := by
  induction texts generalizing before seen reported with
  | nil =>
      rw [List.nil_append, repeatedIn_cons, List.append_nil]
      simp only [h.count_eq_one_iff, repeatedIn, List.append_nil, List.nil_append]
  | cons text texts ih =>
      rw [List.cons_append, repeatedIn_cons, repeatedIn_cons, ih (h.next text), List.append_assoc,
        List.append_assoc]
      rfl

end Recalls

theorem repeated_append_singleton (texts : List String) (last : String) :
    repeated (texts ++ [last]) =
      repeated texts ++ if texts.count last = 1 then [last] else [] := by
  have hstart : Recalls [] [] [] := ⟨by simp, by simp⟩
  exact hstart.repeatedIn_append_singleton texts last

theorem mem_repeated_iff {texts : List String} {text : String} :
    text ∈ repeated texts ↔ 2 ≤ texts.count text := by
  induction texts using List.reverseRecOn with
  | nil => simp [repeated, repeatedIn]
  | append_singleton texts last ih =>
      rw [repeated_append_singleton, List.mem_append, ih]
      by_cases heq : last = text
      · subst heq
        have hcount : (texts ++ [last]).count last = texts.count last + 1 := by simp
        rw [hcount]
        split
        next hone => simp [hone]
        next hnot =>
          simp only [List.not_mem_nil, or_false]
          omega
      · have hnot : text ∉ if texts.count last = 1 then [last] else [] := by
          split <;> simp [Ne.symm heq]
        simp [hnot, heq]

theorem nodup_repeated (texts : List String) : (repeated texts).Nodup := by
  induction texts using List.reverseRecOn with
  | nil => simp [repeated, repeatedIn]
  | append_singleton texts last ih =>
      rw [repeated_append_singleton]
      split
      next hone =>
        -- what has occurred just once is not among the repeats yet
        have hnew : last ∉ repeated texts := by
          rw [mem_repeated_iff, hone]
          omega
        exact ih.append (List.nodup_singleton last) (List.disjoint_singleton.2 hnew)
      next => simpa using ih

theorem repeated_eq_nil_iff {texts : List String} : repeated texts = [] ↔ texts.Nodup := by
  rw [List.nodup_iff_count_le_one, List.eq_nil_iff_forall_not_mem]
  simp only [mem_repeated_iff, Nat.not_le, Nat.lt_succ_iff]

/-! ### Checks -/

theorem checkUnique_eq_ok_iff {grid : Grid} :
    checkUnique grid = .ok () ↔
      grid.states.Nodup ∧ (grid.events.map Header.eventName).Nodup := by
  rw [← repeated_eq_nil_iff, ← repeated_eq_nil_iff]
  by_cases hstates : repeated grid.states = [] <;>
    by_cases hevents : repeated (grid.events.map Header.eventName) = [] <;>
      simp [checkUnique, hstates, hevents, bind, Except.bind, pure, Except.pure, throw, throwThe,
        MonadExceptOf.throw]

variable {ω E : Type}

theorem checkTargets_eq_ok_iff {states : List String} {rules : List (Rule ω E)} :
    checkTargets states rules = .ok () ↔
      ∀ rule ∈ rules, rule.target.declared.name ∈ states := by
  unfold checkTargets
  cases hfind : rules.find? fun rule => !states.contains rule.target.declared.name with
  | none => simpa using List.find?_eq_none.1 hfind
  | some rule =>
      have hnot : rule.target.declared.name ∉ states := by simpa using List.find?_some hfind
      simp only [reduceCtorEq, false_iff]
      exact fun h => hnot (h rule (List.mem_of_find?_eq_some hfind))

theorem checkDefaultPath_eq_ok_iff {states : List String} {path : Option (List String)} :
    checkDefaultPath states path = .ok () ↔ ∀ state ∈ path.getD [], state ∈ states := by
  unfold checkDefaultPath
  cases hfind : (path.getD []).find? (!states.contains ·) with
  | none => simpa using List.find?_eq_none.1 hfind
  | some state =>
      have hnot : state ∉ states := by simpa using List.find?_some hfind
      simp only [reduceCtorEq, false_iff]
      exact fun h => hnot (h state (List.mem_of_find?_eq_some hfind))

/-- **What rules have passed the checks.** -/
theorem checkRules_eq_ok_iff {manifest : Manifest} {grid : Grid} {rules : List (Rule ω E)} :
    checkRules manifest grid rules = .ok () ↔
      (∀ rule ∈ rules, rule.target.declared.name ∈ grid.states) ∧
        (∀ state ∈ manifest.defaultPath.getD [], state ∈ grid.states) ∧
          grid.states.Nodup ∧ (grid.events.map Header.eventName).Nodup := by
  rw [← checkTargets_eq_ok_iff, ← checkDefaultPath_eq_ok_iff, ← checkUnique_eq_ok_iff]
  unfold checkRules
  rcases checkTargets grid.states rules with _ | ⟨⟩
  · simp [bind, Except.bind]
  · rcases checkDefaultPath grid.states manifest.defaultPath with _ | ⟨⟩ <;>
      simp [bind, Except.bind]

/-! ### Headers -/

/-- The name of the event that a header holds is the one by which its column is compared. -/
theorem Header.eventName_of_parse {header : String} {event : Event}
    (h : parse header = .ok event) : eventName header = event.name := by
  unfold parse at h
  unfold eventName
  cases hopening : Text.splitFirst? '[' (Text.trim header.toList) with
  | none =>
      cases hclosing : Text.splitFirst? ']' (Text.trim header.toList) with
      | none =>
          simp only [hopening, hclosing] at h
          split at h
          · contradiction
          · cases h
            simp only [hopening]
            rfl
      | some _ =>
          simp only [hopening, hclosing] at h
          contradiction
  | some opening =>
      obtain ⟨name, afterOpening⟩ := opening
      cases hclosing : Text.splitFirst? ']' (Text.trim header.toList) with
      | none =>
          simp only [hopening, hclosing] at h
          contradiction
      | some closing =>
          obtain ⟨beforeClosing, afterClosing⟩ := closing
          simp only [hopening, hclosing] at h
          repeat' split at h
          all_goals first | contradiction | (cases h; simp only [hopening]; rfl)

theorem Header.map_name_of_mapM_parse {headers : List String} {events : List Event}
    (h : headers.mapM parse = .ok events) : events.map Event.name = headers.map eventName := by
  induction headers generalizing events with
  | nil =>
      cases h
      rfl
  | cons header headers ih =>
      rw [List.mapM_cons] at h
      cases hparse : parse header with
      | error error => simp [hparse, bind, Except.bind] at h
      | ok event =>
          cases hrest : headers.mapM parse with
          | error error => simp [hparse, hrest, bind, Except.bind] at h
          | ok rest =>
              have hevents : events = event :: rest := by
                simpa [hparse, hrest, bind, Except.bind, pure, Except.pure] using h.symm
              rw [hevents, List.map_cons, List.map_cons, ih hrest, eventName_of_parse hparse]

end GridMachine
