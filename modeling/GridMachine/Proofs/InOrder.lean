import Mathlib.Data.List.Forall2

/-!
Attempts made in order. Steps that follow each other give up at the first that fails, and so do the
attempts at the elements of a list: either all succeed, or those before some element do and that one
fails. A search likewise ends at the first element that it is looking for.
-/

namespace GridMachine.InOrder

variable {ε α β : Type}

/-- Whether an element is the first in a list that has a property. -/
def IsFirst (P : α → Prop) (xs : List α) (x : α) : Prop :=
  ∃ before after, xs = before ++ x :: after ∧ (∀ earlier ∈ before, ¬P earlier) ∧ P x

namespace IsFirst

variable {P : α → Prop} {xs : List α} {x : α} (h : IsFirst P xs x)

include h

theorem mem : x ∈ xs := by
  obtain ⟨before, after, rfl, -, -⟩ := h
  exact List.mem_append_right before List.mem_cons_self

theorem holds : P x := by
  obtain ⟨-, -, -, -, hx⟩ := h
  exact hx

end IsFirst

theorem isFirst_cons_iff {P : α → Prop} {head x : α} {xs : List α} :
    IsFirst P (head :: xs) x ↔ P head ∧ head = x ∨ ¬P head ∧ IsFirst P xs x := by
  constructor
  · rintro ⟨before, after, hxs, hbefore, hx⟩
    cases before with
    | nil =>
        obtain ⟨rfl, rfl⟩ := List.cons.inj hxs
        exact .inl ⟨hx, rfl⟩
    | cons first before =>
        obtain ⟨rfl, rfl⟩ := List.cons.inj hxs
        obtain ⟨hfirst, hbefore⟩ := List.forall_mem_cons.1 hbefore
        exact .inr ⟨hfirst, before, after, rfl, hbefore, hx⟩
  · rintro (⟨hx, rfl⟩ | ⟨hfirst, before, after, rfl, hbefore, hx⟩)
    · exact ⟨[], xs, rfl, by simp, hx⟩
    · exact ⟨head :: before, after, rfl, List.forall_mem_cons.2 ⟨hfirst, hbefore⟩, hx⟩

/-- Either no element has a property or there is a first one that has it. -/
theorem forall_not_or_exists_isFirst (P : α → Prop) (xs : List α) :
    (∀ x ∈ xs, ¬P x) ∨ ∃ x, IsFirst P xs x := by
  induction xs with
  | nil => exact .inl (by simp)
  | cons head xs ih =>
      simp only [isFirst_cons_iff, List.forall_mem_cons]
      by_cases hhead : P head
      · exact .inr ⟨head, .inl ⟨hhead, rfl⟩⟩
      · rcases ih with hnone | ⟨x, hfirst⟩
        · exact .inl ⟨hhead, hnone⟩
        · exact .inr ⟨x, .inr ⟨hhead, hfirst⟩⟩

theorem exists_isFirst_iff {P : α → Prop} {xs : List α} :
    (∃ x, IsFirst P xs x) ↔ ∃ x ∈ xs, P x := by
  constructor
  · rintro ⟨x, hfirst⟩
    exact ⟨x, hfirst.mem, hfirst.holds⟩
  · rintro ⟨x, hx, hP⟩
    rcases forall_not_or_exists_isFirst P xs with hnone | hfirst
    · exact absurd hP (hnone x hx)
    · exact hfirst

theorem isFirst_filter_iff {P : α → Prop} {p : α → Bool} {xs : List α} {x : α} :
    IsFirst P (xs.filter p) x ↔ IsFirst (fun x => p x = true ∧ P x) xs x := by
  induction xs with
  | nil => simp [IsFirst]
  | cons head xs ih =>
      rw [isFirst_cons_iff, ← ih]
      by_cases hhead : p head = true
      · rw [List.filter_cons_of_pos hhead, isFirst_cons_iff]
        simp only [hhead, true_and]
      · rw [List.filter_cons_of_neg hhead]
        simp only [hhead, Bool.false_eq_true, false_and, not_false_eq_true, true_and, false_or]

theorem find?_eq_some_iff {p : α → Bool} {P : α → Prop} (hp : ∀ x, p x = true ↔ P x) {xs : List α}
    {x : α} : xs.find? p = some x ↔ IsFirst P xs x := by
  rw [List.find?_eq_some_iff_append]
  constructor
  · rintro ⟨hx, before, after, hxs, hbefore⟩
    refine ⟨before, after, hxs, fun earlier hearlier => ?_, (hp x).1 hx⟩
    rw [← hp]
    simpa using hbefore earlier hearlier
  · rintro ⟨before, after, hxs, hbefore, hx⟩
    refine ⟨(hp x).2 hx, before, after, hxs, fun earlier hearlier => ?_⟩
    have hnot := hbefore earlier hearlier
    rw [← hp] at hnot
    simpa using hnot

/-- The check of a list that tells of the first element with a flaw. -/
def search (p : α → Bool) (tell : α → ε) (xs : List α) : Except ε Unit :=
  (xs.find? p).elim (.ok ()) fun x => .error (tell x)

section Search

variable {p : α → Bool} {P : α → Prop} (hp : ∀ x, p x = true ↔ P x) {tell : α → ε} {xs : List α}

include hp

theorem search_eq_ok_iff : search p tell xs = .ok () ↔ ∀ x ∈ xs, ¬P x := by
  unfold search
  cases hfind : xs.find? p with
  | none => simpa [hp] using hfind
  | some x =>
      obtain ⟨before, after, rfl, -, hx⟩ := (find?_eq_some_iff hp).1 hfind
      simp only [Option.elim_some, reduceCtorEq, false_iff]
      exact fun h => h x (by simp) hx

theorem search_eq_error_iff {error : ε} :
    search p tell xs = .error error ↔ ∃ x, error = tell x ∧ IsFirst P xs x := by
  simp only [← find?_eq_some_iff hp]
  unfold search
  cases xs.find? p <;> simp [eq_comm]

end Search

theorem bind_eq_ok_iff {step : Except ε α} {next : α → Except ε β} {value : β} :
    (step >>= next) = .ok value ↔ ∃ first, step = .ok first ∧ next first = .ok value := by
  cases step <;> simp [bind, Except.bind]

theorem bind_eq_error_iff {step : Except ε α} {next : α → Except ε β} {error : ε} :
    (step >>= next) = .error error ↔
      step = .error error ∨ ∃ first, step = .ok first ∧ next first = .error error := by
  cases step <;> simp [bind, Except.bind]

theorem then_eq_ok_iff {check : Except ε Unit} {next : Except ε β} {value : β} :
    (check >>= fun _ => next) = .ok value ↔ check = .ok () ∧ next = .ok value := by
  rcases check with _ | ⟨⟩ <;> simp [bind, Except.bind]

theorem then_eq_error_iff {check : Except ε Unit} {next : Except ε β} {error : ε} :
    (check >>= fun _ => next) = .error error ↔
      check = .error error ∨ check = .ok () ∧ next = .error error := by
  rcases check with _ | ⟨⟩ <;> simp [bind, Except.bind]

theorem mapM_eq_ok_iff {attempt : α → Except ε β} {xs : List α} {ys : List β} :
    xs.mapM attempt = .ok ys ↔ List.Forall₂ (fun x y => attempt x = .ok y) xs ys := by
  induction xs generalizing ys with
  | nil => simp [pure, Except.pure, eq_comm]
  | cons x xs ih =>
      rw [List.mapM_cons, List.forall₂_cons_left_iff]
      simp only [bind_eq_ok_iff, ih]
      simp [pure, Except.pure, eq_comm]

theorem mapM_eq_error_iff {attempt : α → Except ε β} {xs : List α} {error : ε} :
    xs.mapM attempt = .error error ↔
      ∃ x, attempt x = .error error ∧
        IsFirst (fun x => ∃ error, attempt x = .error error) xs x := by
  induction xs with
  | nil => simp [pure, Except.pure, IsFirst]
  | cons head xs ih =>
      rw [List.mapM_cons, bind_eq_error_iff]
      simp only [bind_eq_error_iff, ih, isFirst_cons_iff]
      constructor
      · rintro (hhead | ⟨y, hhead, ⟨x, hx, hfirst⟩ | ⟨ys, -, h⟩⟩)
        · exact ⟨head, hhead, .inl ⟨⟨error, hhead⟩, rfl⟩⟩
        · exact ⟨x, hx, .inr ⟨by simp [hhead], hfirst⟩⟩
        · simp [pure, Except.pure] at h
      · rintro ⟨x, hx, ⟨-, rfl⟩ | ⟨hhead, hfirst⟩⟩
        · exact .inl hx
        · cases hattempt : attempt head with
          | error other => exact absurd ⟨other, hattempt⟩ hhead
          | ok y => exact .inr ⟨y, rfl, .inl ⟨x, hx, hfirst⟩⟩

end GridMachine.InOrder
