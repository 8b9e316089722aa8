/-!
Maps from names to values, held as lists in the order of the names. A map has one form only, so two
maps that answer every question alike are equal. Every operation is described by what it does to
`get?`.
-/

namespace GridMachine

universe u

variable {β : Type u}

/-- The values of names, each name once, in the order of the names. -/
structure NameMap (β : Type u) where
  entries : List (String × β)
  sorted : entries.Pairwise fun a b => a.1 < b.1

namespace NameMap

/-! ### Sorted lists of entries -/

/-- The value of a name in a list of entries. -/
def find? (name : String) : List (String × β) → Option β
  | [] => none
  | (other, value) :: rest => if other = name then some value else find? name rest

/-- The entries with `f` applied to the value of a name, whether it has one or not. -/
def updateEntries (name : String) (f : Option β → β) : List (String × β) → List (String × β)
  | [] => [(name, f none)]
  | (other, value) :: rest =>
      if name < other then (name, f none) :: (other, value) :: rest
      else if other = name then (other, f (some value)) :: rest
      else (other, value) :: updateEntries name f rest

theorem mem_updateEntries {name : String} {f : Option β → β} {entries : List (String × β)}
    {entry : String × β} (h : entry ∈ updateEntries name f entries) :
    entry.1 = name ∨ entry ∈ entries := by
  induction entries with
  | nil => simp only [updateEntries, List.mem_singleton] at h; exact .inl (by simp [h])
  | cons head rest ih =>
    obtain ⟨other, value⟩ := head
    unfold updateEntries at h
    split at h
    · rcases List.mem_cons.1 h with h | h
      · exact .inl (by simp [h])
      · exact .inr h
    · split at h
      next hname =>
        rcases List.mem_cons.1 h with h | h
        · exact .inl (by simp [h, hname])
        · exact .inr (List.mem_cons_of_mem _ h)
      · rcases List.mem_cons.1 h with h | h
        · exact .inr (by simp [h])
        · rcases ih h with h | h
          · exact .inl h
          · exact .inr (List.mem_cons_of_mem _ h)

theorem lt_of_not_lt_of_ne {a b : String} (h : ¬a < b) (hne : b ≠ a) : b < a :=
  String.not_le.1 fun hle => hne (String.le_antisymm (String.not_lt.1 h) hle)

theorem sorted_updateEntries (name : String) (f : Option β → β) {entries : List (String × β)}
    (h : entries.Pairwise fun a b => a.1 < b.1) :
    (updateEntries name f entries).Pairwise fun a b => a.1 < b.1 := by
  induction entries with
  | nil => simp [updateEntries]
  | cons head rest ih =>
    obtain ⟨other, value⟩ := head
    obtain ⟨hhead, hrest⟩ := List.pairwise_cons.1 h
    unfold updateEntries
    split
    next hlt =>
      refine List.pairwise_cons.2 ⟨fun entry hentry => ?_, h⟩
      rcases List.mem_cons.1 hentry with rfl | hentry
      · exact hlt
      · exact String.lt_trans hlt (hhead entry hentry)
    next hlt =>
      split
      next => exact List.pairwise_cons.2 ⟨hhead, hrest⟩
      next hne =>
        refine List.pairwise_cons.2 ⟨fun entry hentry => ?_, ih hrest⟩
        rcases mem_updateEntries hentry with heq | hentry
        · exact heq ▸ lt_of_not_lt_of_ne hlt hne
        · exact hhead entry hentry

theorem find?_eq_none_of_lt {name : String} {entries : List (String × β)}
    (h : ∀ entry ∈ entries, name < entry.1) : find? name entries = none := by
  induction entries with
  | nil => rfl
  | cons head rest ih =>
    have hne : head.1 ≠ name := fun heq =>
      String.lt_irrefl name (by simpa [heq] using h head (by simp))
    simp only [find?, hne, if_false]
    exact ih fun entry hentry => h entry (List.mem_cons_of_mem _ hentry)

theorem find?_updateEntries (name other : String) (f : Option β → β)
    {entries : List (String × β)} (h : entries.Pairwise fun a b => a.1 < b.1) :
    find? other (updateEntries name f entries) =
      if name = other then some (f (find? name entries)) else find? other entries := by
  induction entries with
  | nil => simp [updateEntries, find?]
  | cons head rest ih =>
    obtain ⟨key, value⟩ := head
    obtain ⟨hhead, hrest⟩ := List.pairwise_cons.1 h
    unfold updateEntries
    split
    next hlt =>
      have hnone : find? name ((key, value) :: rest) = none := by
        refine find?_eq_none_of_lt fun entry hentry => ?_
        rcases List.mem_cons.1 hentry with rfl | hentry
        · exact hlt
        · exact String.lt_trans hlt (hhead entry hentry)
      rw [hnone]
      rfl
    next =>
      split
      next hkey => subst hkey; by_cases hother : key = other <;> simp [find?, hother]
      next hkey =>
        by_cases hother : key = other
        · subst hother
          have hne : name ≠ key := fun heq => hkey heq.symm
          simp [find?, hne]
        · simp only [find?, hother, if_false, ih hrest, hkey]

/-! ### Maps -/

def empty : NameMap β := ⟨[], .nil⟩

instance : Inhabited (NameMap β) := ⟨empty⟩

instance [DecidableEq β] : DecidableEq (NameMap β) := fun a b =>
  if h : a.entries = b.entries then
    isTrue (by cases a; cases b; simpa using h)
  else isFalse fun heq => h (by rw [heq])

def get? (map : NameMap β) (name : String) : Option β := find? name map.entries

def contains (map : NameMap β) (name : String) : Bool := (map.get? name).isSome

/-- The map in which the value of a name is what `f` makes of it. -/
def update (map : NameMap β) (name : String) (f : Option β → β) : NameMap β :=
  ⟨updateEntries name f map.entries, sorted_updateEntries name f map.sorted⟩

/-- The map in which a name has the value, whatever it had before. -/
def insert (map : NameMap β) (name : String) (value : β) : NameMap β :=
  map.update name fun _ => value

/-- The map without a name. -/
def erase (map : NameMap β) (name : String) : NameMap β :=
  ⟨map.entries.filter fun entry => entry.1 ≠ name, map.sorted.filter _⟩

/-- The map of the entries, of which the last of each name counts. -/
def ofList (entries : List (String × β)) : NameMap β :=
  entries.foldl (fun map (name, value) => map.insert name value) empty

def keys (map : NameMap β) : List String := map.entries.map Prod.fst

def values (map : NameMap β) : List β := map.entries.map Prod.snd

def size (map : NameMap β) : Nat := map.entries.length

/-- The names in order, each once. -/
def distinct (names : List String) : List String :=
  (ofList (names.map fun name => (name, ()))).keys

@[simp] theorem get?_empty (name : String) : (empty : NameMap β).get? name = none := rfl

theorem get?_update (map : NameMap β) (name other : String) (f : Option β → β) :
    (map.update name f).get? other =
      if name = other then some (f (map.get? name)) else map.get? other :=
  find?_updateEntries name other f map.sorted

theorem get?_insert (map : NameMap β) (name other : String) (value : β) :
    (map.insert name value).get? other = if name = other then some value else map.get? other :=
  get?_update map name other _

theorem find?_filter (name other : String) (entries : List (String × β)) :
    find? other (entries.filter fun entry => entry.1 ≠ name) =
      if name = other then none else find? other entries := by
  induction entries with
  | nil => simp [find?]
  | cons head rest ih =>
    by_cases hname : head.1 = name
    · by_cases hother : name = other
      · simpa [List.filter_cons, hname, hother] using ih
      · simpa [List.filter_cons, hname, hother, find?] using ih
    · by_cases hother : head.1 = other
      · subst hother
        have hne : name ≠ head.1 := fun heq => hname heq.symm
        simp [hname, find?, hne]
      · simpa [List.filter_cons, hname, hother, find?] using ih

theorem get?_erase (map : NameMap β) (name other : String) :
    (map.erase name).get? other = if name = other then none else map.get? other :=
  find?_filter name other map.entries

end NameMap

end GridMachine
