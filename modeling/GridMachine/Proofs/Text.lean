import GridMachine.Text.Blank
import GridMachine.Text.Split
import Mathlib.Data.List.DropRight

/-!
Texts trimmed and cut. Trimming takes blanks off both ends until there are none, and what is left is
the only text without blanks at its ends that can be got so. The pieces between separators are the
only texts without a separator that give the text when they are joined.
-/

namespace GridMachine.Text

/-- Whether there is nothing but blanks in a text. -/
def IsBlanks (cs : List Char) : Prop := ∀ c ∈ cs, isBlank c = true

/-- Whether a text has no blank at either end. -/
structure IsTrimmed (cs : List Char) : Prop where
  head : ∀ c, cs.head? = some c → isBlank c = false
  last : ∀ c, cs.getLast? = some c → isBlank c = false

/-- Whether a text is another one with blanks before and behind it. -/
def Pads (text cs : List Char) : Prop :=
  ∃ left right, IsBlanks left ∧ IsBlanks right ∧ cs = left ++ (text ++ right)

variable {cs text left right : List Char}

theorem isBlanks_nil : IsBlanks [] := by simp [IsBlanks]

theorem IsBlanks.append (hleft : IsBlanks left) (hright : IsBlanks right) :
    IsBlanks (left ++ right) := by
  intro c hc
  rcases List.mem_append.1 hc with hc | hc
  · exact hleft c hc
  · exact hright c hc

theorem IsTrimmed.append (hleft : IsTrimmed left) (hright : IsTrimmed right) (hl : left ≠ [])
    (hr : right ≠ []) (middle : List Char) : IsTrimmed (left ++ (middle ++ right)) where
  head c hc := by
    rw [List.head?_append_of_ne_nil _ hl] at hc
    exact hleft.head c hc
  last c hc := by
    rw [List.getLast?_append_of_ne_nil _ (List.append_ne_nil_of_right_ne_nil middle hr),
      List.getLast?_append_of_ne_nil _ hr] at hc
    exact hright.last c hc

theorem Pads.append (h : Pads text cs) (hleft : IsBlanks left) (hright : IsBlanks right) :
    Pads text (left ++ (cs ++ right)) := by
  obtain ⟨before, behind, hbefore, hbehind, rfl⟩ := h
  refine ⟨left ++ before, behind ++ right, hleft.append hbefore, hbehind.append hright, ?_⟩
  simp only [List.append_assoc]

theorem Pads.refl (text : List Char) : Pads text text :=
  ⟨[], [], isBlanks_nil, isBlanks_nil, by simp⟩

/-! ### Trimming -/

theorem trimStart_append (hleft : IsBlanks left)
    (hcs : ∀ c, cs.head? = some c → isBlank c = false) : trimStart (left ++ cs) = cs := by
  unfold trimStart
  rw [List.dropWhile_append_of_pos hleft]
  cases cs with
  | nil => rfl
  | cons c cs => rw [List.dropWhile_cons_of_neg (by simpa using hcs c rfl)]

theorem trimEnd_append (hright : IsBlanks right)
    (hcs : ∀ c, cs.getLast? = some c → isBlank c = false) : trimEnd (cs ++ right) = cs := by
  have hreverse : trimStart (right.reverse ++ cs.reverse) = cs.reverse := by
    apply trimStart_append
    · intro c hc
      exact hright c (List.mem_reverse.1 hc)
    · intro c hc
      rw [List.head?_reverse] at hc
      exact hcs c hc
  unfold trimEnd
  rw [List.reverse_append]
  exact (congrArg List.reverse hreverse).trans cs.reverse_reverse

theorem trim_append_rtakeWhile (cs : List Char) :
    trim cs ++ (trimStart cs).rtakeWhile isBlank = trimStart cs :=
  List.rdropWhile_append_rtakeWhile

theorem isTrimmed_trim (cs : List Char) : IsTrimmed (trim cs) where
  head c hc := by
    have hstart : (trimStart cs).head? = some c := by
      rw [← trim_append_rtakeWhile, List.head?_append, hc]
      rfl
    have hnot := List.head?_dropWhile_not isBlank cs
    rw [show List.dropWhile isBlank cs = trimStart cs from rfl, hstart] at hnot
    exact hnot
  last c hc := by
    obtain ⟨hne, rfl⟩ := List.mem_getLast?_eq_getLast hc
    exact Bool.eq_false_iff.2 (List.rdropWhile_last_not isBlank (trimStart cs) hne)

/-- Trimming leaves the one text without blanks at its ends from which blanks lead to the whole. -/
theorem trim_eq_iff : trim cs = text ↔ IsTrimmed text ∧ Pads text cs := by
  constructor
  · rintro rfl
    refine ⟨isTrimmed_trim cs, cs.takeWhile isBlank, (trimStart cs).rtakeWhile isBlank, ?_, ?_, ?_⟩
    · exact fun c => List.mem_takeWhile_imp
    · exact fun c => List.mem_rtakeWhile_imp
    · rw [trim_append_rtakeWhile]
      exact List.takeWhile_append_dropWhile.symm
  · rintro ⟨htext, left, right, hleft, hright, rfl⟩
    unfold trim
    by_cases hempty : text = []
    · subst hempty
      have hblank : trimStart (left ++ ([] ++ right)) = [] :=
        List.dropWhile_eq_nil_iff.2 (hleft.append hright)
      rw [hblank]
      rfl
    · rw [trimStart_append hleft, trimEnd_append hright htext.last]
      intro c hc
      rw [List.head?_append_of_ne_nil _ hempty] at hc
      exact htext.head c hc

theorem pads_trim (cs : List Char) : Pads (trim cs) cs :=
  (trim_eq_iff.1 rfl).2

theorem IsTrimmed.trim_eq (h : IsTrimmed cs) : trim cs = cs :=
  trim_eq_iff.2 ⟨h, .refl cs⟩

@[simp] theorem trim_trim (cs : List Char) : trim (trim cs) = trim cs :=
  (isTrimmed_trim cs).trim_eq

theorem mem_of_mem_trim {c : Char} (hc : c ∈ trim cs) : c ∈ cs := by
  obtain ⟨left, right, -, -, heq⟩ := pads_trim cs
  rw [heq]
  exact List.mem_append_right left (List.mem_append_left right hc)

theorem trim_eq_nil_iff : trim cs = [] ↔ IsBlanks cs := by
  rw [trim_eq_iff]
  constructor
  · rintro ⟨-, left, right, hleft, hright, rfl⟩
    exact hleft.append hright
  · intro h
    exact ⟨⟨by simp, by simp⟩, cs, [], h, isBlanks_nil, by simp⟩

/-! ### Pieces -/

theorem splitOn_eq (separator : Char) (cs : List Char) :
    splitOn separator cs = cs.splitOn separator := by
  induction cs with
  | nil => rfl
  | cons c cs ih =>
      rw [splitOn, List.splitOn_cons_eq_if_modifyHead, ih]
      by_cases hc : c = separator
      · simp [hc]
      · cases hpieces : cs.splitOn separator with
        | nil => exact absurd hpieces (List.splitOn_ne_nil separator cs)
        | cons piece pieces => simp [hc]

theorem splitOn_append_cons {separator : Char} (hcs : separator ∉ cs) (text : List Char) :
    splitOn separator (cs ++ separator :: text) = cs :: splitOn separator text := by
  rw [splitOn_eq, splitOn_eq]
  exact List.splitOn_append_cons_self_of_not_mem hcs text

theorem splitOn_eq_singleton {separator : Char} (hcs : separator ∉ cs) :
    splitOn separator cs = [cs] := by
  rw [splitOn_eq]
  exact List.splitOn_eq_singleton hcs

/-- The characters of a piece are characters of the text, and none of them is the separator. -/
theorem mem_and_ne_of_mem_splitOn {separator c : Char} {piece : List Char}
    (hpiece : piece ∈ splitOn separator cs) (hc : c ∈ piece) : c ∈ cs ∧ c ≠ separator := by
  induction cs generalizing piece with
  | nil =>
      rw [splitOn, List.mem_singleton] at hpiece
      rw [hpiece] at hc
      contradiction
  | cons first cs ih =>
      unfold splitOn at hpiece
      by_cases hfirst : first = separator
      · rw [if_pos hfirst, List.mem_cons] at hpiece
        rcases hpiece with rfl | hpiece
        · contradiction
        · obtain ⟨hmem, hne⟩ := ih hpiece hc
          exact ⟨List.mem_cons_of_mem first hmem, hne⟩
      · rw [if_neg hfirst] at hpiece
        cases hpieces : splitOn separator cs with
        | nil => exact absurd hpieces (splitOn_ne_nil separator cs)
        | cons head rest =>
            simp only [hpieces, List.mem_cons] at hpiece ih
            rcases hpiece with rfl | hpiece
            · rcases List.mem_cons.1 hc with rfl | hc
              · exact ⟨List.mem_cons_self, hfirst⟩
              · obtain ⟨hmem, hne⟩ := ih (.inl rfl) hc
                exact ⟨List.mem_cons_of_mem first hmem, hne⟩
            · obtain ⟨hmem, hne⟩ := ih (.inr hpiece) hc
              exact ⟨List.mem_cons_of_mem first hmem, hne⟩

/-- The pieces of a text are the only texts without the separator that give it when joined. -/
theorem splitOn_eq_iff {separator : Char} {pieces : List (List Char)} :
    splitOn separator cs = pieces ↔
      pieces ≠ [] ∧ (∀ piece ∈ pieces, separator ∉ piece) ∧ [separator].intercalate pieces = cs := by
  constructor
  · rintro rfl
    refine ⟨splitOn_ne_nil separator cs, fun piece hpiece => ?_, splitOn_intercalate separator cs⟩
    exact fun hmem => (mem_and_ne_of_mem_splitOn hpiece hmem).2 rfl
  · rintro ⟨hne, hpieces, rfl⟩
    rw [splitOn_eq]
    exact List.splitOn_intercalate separator hpieces hne

/-- The characters of joined pieces are those of the pieces, and the separator. -/
theorem mem_intercalate {separator c : Char} {pieces : List (List Char)}
    (hc : c ∈ [separator].intercalate pieces) (hne : c ≠ separator) :
    ∃ piece ∈ pieces, c ∈ piece := by
  induction pieces with
  | nil => simp at hc
  | cons piece pieces ih =>
      cases pieces with
      | nil => exact ⟨piece, List.mem_cons_self, by simpa using hc⟩
      | cons next pieces =>
          rw [List.intercalate_cons_cons, List.mem_append, List.mem_append,
            List.mem_singleton] at hc
          rcases hc with (hc | hc) | hc
          · exact ⟨piece, List.mem_cons_self, hc⟩
          · exact absurd hc hne
          · obtain ⟨found, hfound, hmem⟩ := ih hc
            exact ⟨found, List.mem_cons_of_mem piece hfound, hmem⟩

/-! ### The first separator -/

theorem splitFirst?_eq_none_iff {separator : Char} :
    splitFirst? separator cs = none ↔ separator ∉ cs := by
  induction cs with
  | nil => simp [splitFirst?]
  | cons c cs ih =>
      by_cases hc : c = separator
      · simp [splitFirst?, hc]
      · simp [splitFirst?, hc, ih, Ne.symm hc]

theorem splitFirst?_eq_some_iff {separator : Char} {before after : List Char} :
    splitFirst? separator cs = some (before, after) ↔
      cs = before ++ separator :: after ∧ separator ∉ before := by
  induction cs generalizing before after with
  | nil => simp [splitFirst?]
  | cons c cs ih =>
      by_cases hc : c = separator
      · subst hc
        cases before with
        | nil => simp [splitFirst?]
        | cons first before => simp +contextual [splitFirst?]
      · cases before with
        | nil => simp [splitFirst?, hc]
        | cons first before =>
            simp only [splitFirst?, if_neg hc, Option.map_eq_some_iff, Prod.exists, Prod.mk.injEq, ih,
              List.cons_append, List.cons.injEq, List.mem_cons, not_or]
            constructor
            · rintro ⟨_, _, ⟨rfl, hbefore⟩, ⟨rfl, rfl⟩, rfl⟩
              exact ⟨⟨rfl, rfl⟩, Ne.symm hc, hbefore⟩
            · rintro ⟨⟨rfl, rfl⟩, -, hbefore⟩
              exact ⟨before, after, ⟨rfl, hbefore⟩, ⟨rfl, rfl⟩, rfl⟩

end GridMachine.Text
