import GridMachine.Proofs.InOrder
import Mathlib.Data.List.Nodup
import Mathlib.Data.List.Perm.Basic
import Mathlib.Logic.Equiv.Defs

/-!
Lists side by side. Their elements are related one to one: each to the one at its own place, to the
one at the place that it is moved to, or to one at any place. What is attempted for the elements of
one list then comes to what is attempted for those of the other, at the places that belong to it.
-/

namespace GridMachine

/-! ### Elements at the same places -/

theorem exists_mem_iff_of_forall₂ {β γ : Type} {R : β → γ → Prop} {P : β → Prop} {Q : γ → Prop}
    (hR : ∀ b c, R b c → (P b ↔ Q c)) {bs : List β} {cs : List γ} (h : List.Forall₂ R bs cs) :
    (∃ b ∈ bs, P b) ↔ ∃ c ∈ cs, Q c := by
  induction h with
  | nil => simp
  | cons hhead _ ih =>
      rw [List.exists_mem_cons_iff, List.exists_mem_cons_iff, hR _ _ hhead, ih]

theorem exists_left_of_forall₂ {β γ : Type} {R : β → γ → Prop} {bs : List β} {cs : List γ}
    (h : List.Forall₂ R bs cs) {c : γ} (hc : c ∈ cs) : ∃ b ∈ bs, R b c := by
  induction h with
  | nil => cases hc
  | @cons b _ _ _ hhead _ ih =>
      rcases List.mem_cons.1 hc with rfl | hc
      · exact ⟨b, List.mem_cons_self, hhead⟩
      · obtain ⟨b', hmem, hR⟩ := ih hc
        exact ⟨b', List.mem_cons_of_mem b hmem, hR⟩

theorem map_eq_map_of_forall₂ {β γ δ : Type} {R : β → γ → Prop} {f : β → δ} {g : γ → δ}
    (hR : ∀ b c, R b c → f b = g c) {bs : List β} {cs : List γ} (h : List.Forall₂ R bs cs) :
    bs.map f = cs.map g := by
  rw [← List.forall₂_eq_eq_eq, List.forall₂_map_left_iff, List.forall₂_map_right_iff]
  exact h.imp hR

/-- What groups keep stands for what is kept of the things that the groups stand for. -/
theorem exists_filter_flatten_of_forall₂ {β γ : Type} {R : β → List γ → Prop} {p : β → Bool}
    {q : γ → Bool} (hR : ∀ b cs, R b cs → ∀ c ∈ cs, q c = p b) {bs : List β}
    {groups : List (List γ)} (h : List.Forall₂ R bs groups) :
    ∃ kept, groups.flatten.filter q = kept.flatten ∧ List.Forall₂ R (bs.filter p) kept := by
  induction h with
  | nil => exact ⟨[], rfl, .nil⟩
  | @cons b cs bs groups hhead _ ih =>
      obtain ⟨kept, hkept, hrest⟩ := ih
      rw [List.flatten_cons, List.filter_append, hkept]
      by_cases hb : p b = true
      · have hall : cs.filter q = cs := by
          rw [List.filter_eq_self]
          intro c hc
          rw [hR b cs hhead c hc]
          exact hb
        rw [hall, List.filter_cons_of_pos hb]
        exact ⟨cs :: kept, rfl, .cons hhead hrest⟩
      · have hnone : cs.filter q = [] := by
          rw [List.filter_eq_nil_iff]
          intro c hc
          rw [hR b cs hhead c hc]
          exact hb
        rw [hnone, List.filter_cons_of_neg hb]
        exact ⟨kept, rfl, hrest⟩

section Beside

variable {α β γ δ ε : Type} {R : α → β → Prop} {xs : List α} {ys : List β}

theorem exists_forall₂ (h : ∀ x ∈ xs, ∃ y, R x y) : ∃ ys, List.Forall₂ R xs ys := by
  induction xs with
  | nil => exact ⟨[], .nil⟩
  | cons x xs ih =>
      obtain ⟨⟨y, hy⟩, hxs⟩ := List.forall_mem_cons.1 h
      obtain ⟨ys, hys⟩ := ih hxs
      exact ⟨y :: ys, .cons hy hys⟩

theorem rel_getElem?_of_forall₂ (h : List.Forall₂ R xs ys) (place : Nat) :
    Option.Rel R xs[place]? ys[place]? := by
  induction h generalizing place with
  | nil => exact .none
  | cons hhead _ ih =>
      cases place with
      | zero => exact .some hhead
      | succ place => exact ih place

theorem getElem?_of_mapM_eq_ok {attempt : α → Except ε β} (h : xs.mapM attempt = .ok ys)
    (place : Nat) : ys[place]? = xs[place]?.bind fun x => (attempt x).toOption := by
  have hrel := rel_getElem?_of_forall₂ (InOrder.mapM_eq_ok_iff.1 h) place
  generalize xs[place]? = x at hrel
  generalize ys[place]? = y at hrel
  cases hrel with
  | none => rfl
  | some hattempt =>
      rw [Option.bind_some, hattempt]
      rfl

/-- What is found for related elements is related, element by element. -/
theorem forall₂_of_forall₂ {A : α → γ → Prop} {B : β → δ → Prop} {S : γ → δ → Prop}
    (hstep : ∀ x y z, R x y → A x z → ∃ w, B y w ∧ S z w) (h : List.Forall₂ R xs ys)
    {zs : List γ} (hzs : List.Forall₂ A xs zs) :
    ∃ ws, List.Forall₂ B ys ws ∧ List.Forall₂ S zs ws := by
  induction h generalizing zs with
  | nil =>
      cases hzs
      exact ⟨[], .nil, .nil⟩
  | cons hhead _ ih =>
      cases hzs with
      | cons hz hrest =>
          obtain ⟨w, hw, hzw⟩ := hstep _ _ _ hhead hz
          obtain ⟨ws, hws, hzws⟩ := ih hrest
          exact ⟨w :: ws, .cons hw hws, .cons hzw hzws⟩

theorem forall₂_trans {S : β → γ → Prop} {T : α → γ → Prop}
    (hT : ∀ x y z, R x y → S y z → T x z) (h : List.Forall₂ R xs ys) {zs : List γ}
    (hzs : List.Forall₂ S ys zs) : List.Forall₂ T xs zs := by
  induction h generalizing zs with
  | nil =>
      cases hzs
      exact .nil
  | cons hhead _ ih =>
      cases hzs with
      | cons hz hrest => exact .cons (hT _ _ _ hhead hz) (ih hrest)

theorem rel_toOption_mapM {attempt : α → Except ε γ} {attempt' : β → Except ε δ} {S : γ → δ → Prop}
    (hstep : ∀ x y, R x y → Option.Rel S (attempt x).toOption (attempt' y).toOption)
    (h : List.Forall₂ R xs ys) :
    Option.Rel (List.Forall₂ S) (xs.mapM attempt).toOption (ys.mapM attempt').toOption := by
  induction h with
  | nil => exact .some .nil
  | @cons x y xs ys hhead _ ih =>
      have hvalue := hstep x y hhead
      rw [List.mapM_cons, List.mapM_cons]
      revert hvalue ih
      generalize attempt x = first, xs.mapM attempt = rest
      generalize attempt' y = first', ys.mapM attempt' = rest'
      intro ih hvalue
      cases first <;> cases first' <;> cases hvalue
      · exact .none
      · next hvalue =>
          cases rest <;> cases rest' <;> cases ih
          · exact .none
          · next hvalues => exact .some (.cons hvalue hvalues)

end Beside

/-! ### Elements at places they are moved to -/

/-- Whether every element of a list stands where its place is moved to, and nothing else does. -/
def Moved {α : Type} (places : Equiv.Perm Nat) (xs ys : List α) : Prop :=
  ∀ place : Nat, ys[places place]? = xs[place]?

namespace Moved

variable {α β ε : Type} {places : Equiv.Perm Nat} {xs ys : List α} (h : Moved places xs ys)

include h

theorem symm : Moved places.symm ys xs := by
  intro place
  rw [← h (places.symm place), places.apply_symm_apply]

theorem map (f : α → β) : Moved places (xs.map f) (ys.map f) := by
  intro place
  rw [List.getElem?_map, List.getElem?_map, h place]

theorem mem_iff {x : α} : x ∈ xs ↔ x ∈ ys := by
  rw [List.mem_iff_getElem?, List.mem_iff_getElem?]
  constructor
  · rintro ⟨place, hx⟩
    exact ⟨places place, (h place).trans hx⟩
  · rintro ⟨place, hx⟩
    exact ⟨places.symm place, (h.symm place).trans hx⟩

theorem nodup (hxs : xs.Nodup) : ys.Nodup := by
  rw [List.nodup_iff_getElem?_ne_getElem?]
  intro first second hlt hlength heq
  rw [← h.symm, ← h.symm] at heq
  have hsome : ys[first]? = some ys[first] := List.getElem?_eq_getElem (Nat.lt_trans hlt hlength)
  rw [← h.symm] at hsome
  have hplaces := (List.getElem?_inj (List.getElem?_eq_some_iff.1 hsome).1 hxs).1 heq
  exact Nat.ne_of_lt hlt (places.symm.injective hplaces)

/-- What is made of moved elements one by one is moved alike. -/
theorem mapM {attempt : α → Except ε β} {made : List β} (hmade : xs.mapM attempt = .ok made) :
    ∃ others, ys.mapM attempt = .ok others ∧ Moved places made others := by
  have hall : ∀ y ∈ ys, ∃ value, attempt y = .ok value := by
    intro y hy
    obtain ⟨value, -, hvalue⟩ :=
      exists_left_of_forall₂ (InOrder.mapM_eq_ok_iff.1 hmade).flip (h.mem_iff.2 hy)
    exact ⟨value, hvalue⟩
  obtain ⟨others, hothers⟩ := exists_forall₂ hall
  have hothers' := InOrder.mapM_eq_ok_iff.2 hothers
  refine ⟨others, hothers', fun place => ?_⟩
  rw [getElem?_of_mapM_eq_ok hothers', h place, ← getElem?_of_mapM_eq_ok hmade]

end Moved

/-! ### Elements at any places -/

/-- Whether the elements of two lists are related one to one, in whatever order. -/
def Matched {α β : Type} (R : α → β → Prop) (xs : List α) (ys : List β) : Prop :=
  ∃ middle, xs.Perm middle ∧ List.Forall₂ R middle ys

namespace Matched

variable {α β γ δ ε : Type} {R : α → β → Prop} {xs : List α} {ys : List β} (h : Matched R xs ys)

include h

theorem symm : Matched (flip R) ys xs := by
  obtain ⟨middle, hperm, hrel⟩ := h
  obtain ⟨other, hother, hys⟩ := List.perm_comp_forall₂ hperm hrel
  exact ⟨other, hys.symm, hother.flip⟩

theorem imp {S : α → β → Prop} (hS : ∀ x y, R x y → S x y) : Matched S xs ys := by
  obtain ⟨middle, hperm, hrel⟩ := h
  exact ⟨middle, hperm, hrel.imp hS⟩

theorem perm_map {f : α → γ} {g : β → γ} (hfg : ∀ x y, R x y → f x = g y) :
    (xs.map f).Perm (ys.map g) := by
  obtain ⟨middle, hperm, hrel⟩ := h
  rw [← map_eq_map_of_forall₂ hfg hrel]
  exact hperm.map f

theorem exists_of_mem {x : α} (hx : x ∈ xs) : ∃ y ∈ ys, R x y := by
  obtain ⟨middle, hperm, hrel⟩ := h
  exact exists_left_of_forall₂ hrel.flip (hperm.mem_iff.1 hx)

theorem mapM {attempt : α → Except ε γ} {attempt' : β → Except ε δ} {S : γ → δ → Prop}
    (hstep : ∀ x y z, R x y → attempt x = .ok z → ∃ w, attempt' y = .ok w ∧ S z w)
    {made : List γ} (hmade : xs.mapM attempt = .ok made) :
    ∃ others, ys.mapM attempt' = .ok others ∧ Matched S made others := by
  obtain ⟨middle, hperm, hrel⟩ := h
  obtain ⟨made', hmade', hperm'⟩ :=
    List.perm_comp_forall₂ hperm.symm (InOrder.mapM_eq_ok_iff.1 hmade)
  obtain ⟨others, hothers, hS⟩ := forall₂_of_forall₂ hstep hrel hmade'
  exact ⟨others, InOrder.mapM_eq_ok_iff.2 hothers, made', hperm'.symm, hS⟩

end Matched

end GridMachine
