import GridMachine.NameMap
import Mathlib.Data.List.Forall2
import Mathlib.Data.List.Induction

/-!
Maps seen through `get?`: the entries, keys and values of a map are those of the names that have a
value, and listing names without repetition neither loses nor adds one. A map is the map of its
entries. Two maps whose values correspond name by name stay so when both are updated alike.
-/

namespace GridMachine.NameMap

universe u

variable {β : Type u}

theorem find?_eq_some_iff {name : String} {value : β} {entries : List (String × β)}
    (hsorted : entries.Pairwise fun a b => a.1 < b.1) :
    find? name entries = some value ↔ (name, value) ∈ entries := by
  induction entries with
  | nil => simp [find?]
  | cons head rest ih =>
      obtain ⟨other, known⟩ := head
      obtain ⟨hhead, hrest⟩ := List.pairwise_cons.1 hsorted
      by_cases hname : other = name
      · subst hname
        -- a second entry of the name would be smaller than itself
        have hnew : (other, value) ∉ rest := fun hmem =>
          String.lt_irrefl other (hhead (other, value) hmem)
        simp [find?, hnew, eq_comm]
      · have hne : name ≠ other := fun heq => hname heq.symm
        simp [find?, hname, hne, ih hrest]

theorem get?_eq_some_iff {map : NameMap β} {name : String} {value : β} :
    map.get? name = some value ↔ (name, value) ∈ map.entries :=
  find?_eq_some_iff map.sorted

theorem mem_keys {map : NameMap β} {name : String} :
    name ∈ map.keys ↔ ∃ value, map.get? name = some value := by
  simp only [keys, get?_eq_some_iff, List.mem_map]
  constructor
  · rintro ⟨⟨other, value⟩, hmem, rfl⟩
    exact ⟨value, hmem⟩
  · rintro ⟨value, hmem⟩
    exact ⟨(name, value), hmem, rfl⟩

theorem mem_values {map : NameMap β} {value : β} :
    value ∈ map.values ↔ ∃ name, map.get? name = some value := by
  simp only [values, get?_eq_some_iff, List.mem_map]
  constructor
  · rintro ⟨⟨name, other⟩, hmem, rfl⟩
    exact ⟨name, hmem⟩
  · rintro ⟨name, hmem⟩
    exact ⟨(name, value), hmem, rfl⟩

theorem nodup_keys (map : NameMap β) : map.keys.Nodup := by
  rw [keys, List.Nodup, List.pairwise_map]
  exact map.sorted.imp fun hlt => String.ne_of_lt hlt

/-- Where values know their names, the names that they know are the keys. -/
theorem map_values {f : β → String} {map : NameMap β}
    (h : ∀ name value, map.get? name = some value → f value = name) :
    map.values.map f = map.keys := by
  rw [values, keys, List.map_map]
  exact List.map_congr_left fun entry hentry => h entry.1 entry.2 (get?_eq_some_iff.2 hentry)

theorem mem_keys_insert {map : NameMap β} {name other : String} {value : β} :
    other ∈ (map.insert name value).keys ↔ name = other ∨ other ∈ map.keys := by
  simp only [mem_keys, get?_insert]
  by_cases hname : name = other <;> simp [hname]

theorem mem_keys_ofList {entries : List (String × β)} {name : String} :
    name ∈ (ofList entries).keys ↔ name ∈ entries.map Prod.fst := by
  have hfold : ∀ map : NameMap β,
      name ∈ (entries.foldl (fun map entry => map.insert entry.1 entry.2) map).keys ↔
        name ∈ map.keys ∨ name ∈ entries.map Prod.fst := by
    induction entries with
    | nil => simp
    | cons head rest ih =>
        intro map
        rw [List.foldl_cons, ih, mem_keys_insert, List.map_cons, List.mem_cons]
        rw [or_comm (a := head.1 = name), or_assoc, eq_comm (a := head.1)]
  change name ∈ (entries.foldl (fun map entry => map.insert entry.1 entry.2) empty).keys ↔ _
  rw [hfold empty]
  simp [mem_keys]

@[simp] theorem mem_distinct {names : List String} {name : String} :
    name ∈ distinct names ↔ name ∈ names := by
  rw [distinct, mem_keys_ofList, List.map_map]
  simp

theorem nodup_distinct (names : List String) : (distinct names).Nodup := nodup_keys _

theorem ofList_append_singleton (entries : List (String × β)) (entry : String × β) :
    ofList (entries ++ [entry]) = (ofList entries).insert entry.1 entry.2 := by
  rw [ofList, List.foldl_append]
  rfl

theorem get?_ofList {entries : List (String × β)} (h : (entries.map Prod.fst).Nodup) {name : String}
    {value : β} : (ofList entries).get? name = some value ↔ (name, value) ∈ entries := by
  induction entries using List.reverseRecOn with
  | nil => simp [ofList]
  | append_singleton entries entry ih =>
      obtain ⟨other, known⟩ := entry
      rw [List.map_append, List.nodup_append] at h
      obtain ⟨hentries, -, hother⟩ := h
      rw [ofList_append_singleton, get?_insert, List.mem_append, List.mem_singleton, Prod.mk.injEq]
      by_cases hname : other = name
      · have hnew : (name, value) ∉ entries := fun hmem =>
          hother name (List.mem_map_of_mem hmem) other (by simp) hname.symm
        simp [hname, hnew, eq_comm]
      · have hne : name ≠ other := fun heq => hname heq.symm
        simp [hname, hne, ih hentries]

/-- An update that adds one item to a value adds this item to those of all values. -/
theorem perm_flatMap_updateEntries {γ : Type u} {g : β → List γ} {f : Option β → β} {item : γ}
    (hf : ∀ value, (g (f value)).Perm (item :: value.elim [] g)) (name : String)
    (entries : List (String × β)) :
    ((updateEntries name f entries).flatMap fun entry => g entry.2).Perm
      (item :: entries.flatMap fun entry => g entry.2) := by
  induction entries with
  | nil => simpa [updateEntries] using hf none
  | cons head rest ih =>
      obtain ⟨other, value⟩ := head
      unfold updateEntries
      split
      · simpa using (hf none).append_right (((other, value) :: rest).flatMap fun entry => g entry.2)
      · split
        · simpa using (hf (some value)).append_right (rest.flatMap fun entry => g entry.2)
        · simp only [List.flatMap_cons]
          exact (ih.append_left (g value)).trans List.perm_middle

theorem perm_flatMap_update {γ : Type u} {g : β → List γ} {f : Option β → β} {item : γ}
    (hf : ∀ value, (g (f value)).Perm (item :: value.elim [] g)) (name : String)
    (map : NameMap β) :
    ((map.update name f).values.flatMap g).Perm (item :: map.values.flatMap g) := by
  simp only [values, List.flatMap_map]
  exact perm_flatMap_updateEntries hf name map.entries

theorem updateEntries_of_forall_lt {name : String} {f : Option β → β} {entries : List (String × β)}
    (h : ∀ entry ∈ entries, entry.1 < name) :
    updateEntries name f entries = entries ++ [(name, f none)] := by
  induction entries with
  | nil => rfl
  | cons head rest ih =>
      obtain ⟨hhead, hrest⟩ := List.forall_mem_cons.1 h
      have hlt : ¬name < head.1 := fun hlt => String.lt_irrefl name (String.lt_trans hlt hhead)
      have hne : head.1 ≠ name := fun heq => String.lt_irrefl name (heq ▸ hhead)
      rw [updateEntries, if_neg hlt, if_neg hne, ih hrest, List.cons_append]

/-- Entries that come after those of a map, in their order, are put at its end. -/
theorem entries_foldl_insert {rest : List (String × β)} {map : NameMap β}
    (h : (map.entries ++ rest).Pairwise fun a b => a.1 < b.1) :
    (rest.foldl (fun map (name, value) => map.insert name value) map).entries =
      map.entries ++ rest := by
  induction rest generalizing map with
  | nil => exact (List.append_nil _).symm
  | cons head rest ih =>
      obtain ⟨name, value⟩ := head
      have hlast : (map.insert name value).entries = map.entries ++ [(name, value)] :=
        updateEntries_of_forall_lt fun entry hentry =>
          (List.pairwise_append.1 h).2.2 entry hentry (name, value) List.mem_cons_self
      have hentries :
          (map.insert name value).entries ++ rest = map.entries ++ (name, value) :: rest := by
        rw [hlast, List.append_assoc]
        rfl
      rw [List.foldl_cons, ih (hentries ▸ h), hentries]

theorem eq_of_entries {map other : NameMap β} (h : map.entries = other.entries) : map = other := by
  cases map
  cases other
  simpa using h

/-- Maps that answer every question alike are equal. -/
theorem eq_of_get? {map other : NameMap β} (h : ∀ name, map.get? name = other.get? name) :
    map = other := by
  apply eq_of_entries
  have hnodup : ∀ map : NameMap β, map.entries.Nodup := fun map =>
    map.sorted.imp fun hlt heq => String.ne_of_lt hlt (congrArg Prod.fst heq)
  have hperm : map.entries.Perm other.entries := by
    rw [List.perm_ext_iff_of_nodup (hnodup map) (hnodup other)]
    rintro ⟨name, value⟩
    rw [← get?_eq_some_iff, ← get?_eq_some_iff, h]
  refine hperm.eq_of_pairwise ?_ map.sorted other.sorted
  intro entry entry' _ _ hlt hlt'
  exact absurd (String.lt_trans hlt hlt') (String.lt_irrefl entry.1)

theorem ofList_entries (map : NameMap β) : ofList map.entries = map := by
  have hsorted : ((empty : NameMap β).entries ++ map.entries).Pairwise fun a b => a.1 < b.1 :=
    map.sorted
  exact eq_of_entries (entries_foldl_insert hsorted)

theorem get?_foldl_insert (value : String → β) (names : List String)
    (map : NameMap β) (name : String) :
    (names.foldl (fun map name => map.insert name (value name)) map).get? name =
      if name ∈ names then some (value name) else map.get? name := by
  induction names generalizing map with
  | nil => simp
  | cons head names ih =>
      rw [List.foldl_cons, ih, get?_insert]
      by_cases hhead : head = name
      · subst hhead
        simp
      · have hne : name ≠ head := fun heq => hhead heq.symm
        simp [hhead, hne]

/-! ### Maps side by side -/

section Related

variable {γ : Type u} {R : β → γ → Prop}

/-- Whether two entries have the same name and values that are related. -/
def EntriesRelated (R : β → γ → Prop) (entry : String × β) (other : String × γ) : Prop :=
  entry.1 = other.1 ∧ R entry.2 other.2

theorem rel_find? {entries : List (String × β)} {others : List (String × γ)}
    (h : List.Forall₂ (EntriesRelated R) entries others) (name : String) :
    Option.Rel R (find? name entries) (find? name others) := by
  induction h with
  | nil => exact .none
  | @cons entry other _ _ hentry _ ih =>
      obtain ⟨known, value⟩ := entry
      obtain ⟨_, value'⟩ := other
      obtain ⟨rfl, hvalue⟩ := hentry
      by_cases hname : known = name
      · simpa only [find?, if_pos hname] using Option.Rel.some hvalue
      · simpa only [find?, if_neg hname] using ih

theorem forall₂_updateEntries {f : Option β → β} {g : Option γ → γ}
    (hf : ∀ value value', Option.Rel R value value' → R (f value) (g value'))
    {entries : List (String × β)} {others : List (String × γ)}
    (h : List.Forall₂ (EntriesRelated R) entries others) (name : String) :
    List.Forall₂ (EntriesRelated R) (updateEntries name f entries)
      (updateEntries name g others) := by
  induction h with
  | nil => exact .cons ⟨rfl, hf _ _ .none⟩ .nil
  | @cons entry other _ _ hentry hrest ih =>
      obtain ⟨known, value⟩ := entry
      obtain ⟨_, value'⟩ := other
      obtain ⟨rfl, hvalue⟩ := hentry
      simp only [updateEntries]
      by_cases hbefore : name < known
      · simp only [if_pos hbefore]
        exact .cons ⟨rfl, hf _ _ .none⟩ (.cons ⟨rfl, hvalue⟩ hrest)
      · by_cases hname : known = name
        · simp only [if_neg hbefore, if_pos hname]
          exact .cons ⟨rfl, hf _ _ (.some hvalue)⟩ hrest
        · simp only [if_neg hbefore, if_neg hname]
          exact .cons ⟨rfl, hvalue⟩ ih

/-- Whether two maps have the same names, with values that are related. -/
def Related (R : β → γ → Prop) (map : NameMap β) (other : NameMap γ) : Prop :=
  List.Forall₂ (EntriesRelated R) map.entries other.entries

theorem related_empty : Related R empty empty := .nil

namespace Related

variable {map : NameMap β} {other : NameMap γ} (h : Related R map other)

include h

theorem keys : map.keys = other.keys := by
  rw [NameMap.keys, NameMap.keys, ← List.forall₂_eq_eq_eq, List.forall₂_map_left_iff,
    List.forall₂_map_right_iff]
  exact h.imp fun _ _ hentry => hentry.1

theorem values : List.Forall₂ R map.values other.values := by
  rw [NameMap.values, NameMap.values, List.forall₂_map_left_iff, List.forall₂_map_right_iff]
  exact h.imp fun _ _ hentry => hentry.2

theorem get? (name : String) : Option.Rel R (map.get? name) (other.get? name) := rel_find? h name

theorem update {f : Option β → β} {g : Option γ → γ}
    (hf : ∀ value value', Option.Rel R value value' → R (f value) (g value')) (name : String) :
    Related R (map.update name f) (other.update name g) :=
  forall₂_updateEntries hf h name

end Related

end Related

end GridMachine.NameMap
