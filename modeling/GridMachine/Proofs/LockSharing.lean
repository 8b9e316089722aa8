import GridMachine.Machine.Trigger
import Mathlib.Data.List.Perm.Basic

/-!
Locks that many callers use at once. Each caller visits the lock of an id: it looks for the entry,
makes one if there was none, uses the lock, gives its handle up and, if it came to handle an event,
releases the entry. Visits overlap in any way, and between any two moves of one visit there may be
moves of others. Handles to one id are always to one lock, which is the one in the table, and an
entry that is only used to handle events has gone when the last of these visits is over.
-/

namespace GridMachine.LockTable

/-! ### Visits -/

/-- What a caller wants with the lock of an id. -/
inductive Purpose where
  /-- To handle an event: the entry is released afterwards. -/
  | event
  /-- To have a handle for a while. -/
  | handle
deriving DecidableEq

/-- How far a caller who has a handle is with using the lock. -/
inductive Use where
  | waiting
  | working
  | finished
deriving DecidableEq

/-- How far a visit is. -/
inductive Stage where
  | seeking
  /-- The id had no entry when it was looked up. -/
  | missed
  | having (use : Use) (lock : Lock)
  /-- The handle is given up and the entry is still to be released. -/
  | leaving
deriving DecidableEq

/-- A visit of a caller to the lock of an id. -/
structure Visit where
  id : String
  purpose : Purpose
  stage : Stage
deriving DecidableEq

namespace Visit

/-- The lock to which the visit has a handle. -/
def lock? (visit : Visit) : Option Lock :=
  match visit.stage with
  | .having _ lock => some lock
  | _ => none

/-- The lock that the visit keeps shut. -/
def shut? (visit : Visit) : Option Lock :=
  match visit.stage with
  | .having .working lock => some lock
  | _ => none

theorem lock?_of_shut? {visit : Visit} {lock : Lock} (h : visit.shut? = some lock) :
    visit.lock? = some lock := by
  obtain ⟨id, purpose, stage⟩ := visit
  cases stage with
  | having use known =>
      cases use with
      | working => exact h
      | _ => contradiction
  | _ => contradiction

/-- Whether the visit has come to the lock, so that leaving it is still to come. -/
def HasCome (visit : Visit) : Prop := visit.stage ≠ .seeking ∧ visit.stage ≠ .missed

end Visit

/-- One move of a visit beside `others`: what it makes of the table, and the visit after it unless
it is over. Looking an id up and making its entry are two moves, each of them undivided. -/
inductive Move (others : List Visit) : LockTable → Visit → LockTable → Option Visit → Prop where
  | find {table found : LockTable} {id : String} {purpose : Purpose} {lock : Lock}
      (known : table.find? id = some (lock, found)) :
      Move others table ⟨id, purpose, .seeking⟩ found (some ⟨id, purpose, .having .waiting lock⟩)
  | miss {table : LockTable} {id : String} {purpose : Purpose} (unknown : table.find? id = none) :
      Move others table ⟨id, purpose, .seeking⟩ table (some ⟨id, purpose, .missed⟩)
  | acquire {table acquired : LockTable} {id : String} {purpose : Purpose} {lock : Lock}
      (made : table.acquire id = (lock, acquired)) :
      Move others table ⟨id, purpose, .missed⟩ acquired (some ⟨id, purpose, .having .waiting lock⟩)
  | enter {table : LockTable} {id : String} {purpose : Purpose} {lock : Lock}
      (free : ∀ other ∈ others, other.shut? ≠ some lock) :
      Move others table ⟨id, purpose, .having .waiting lock⟩ table
        (some ⟨id, purpose, .having .working lock⟩)
  | finish {table : LockTable} {id : String} {purpose : Purpose} {lock : Lock} :
      Move others table ⟨id, purpose, .having .working lock⟩ table
        (some ⟨id, purpose, .having .finished lock⟩)
  | drop {table : LockTable} {id : String} {use : Use} {lock : Lock} (idle : use ≠ .working) :
      Move others table ⟨id, .handle, .having use lock⟩ (table.drop lock) none
  | dropUsed {table : LockTable} {id : String} {lock : Lock} :
      Move others table ⟨id, .event, .having .finished lock⟩ (table.drop lock)
        (some ⟨id, .event, .leaving⟩)
  | release {table : LockTable} {id : String} :
      Move others table ⟨id, .event, .leaving⟩ (table.release id).2 none

/-- The tables and the visits in progress that can come about from an empty table. The list says
which visits have begun so far. -/
inductive Reaches : List (String × Purpose) → LockTable → List Visit → Prop where
  | empty : Reaches [] {} []
  | begin {begun : List (String × Purpose)} {table : LockTable} {visits : List Visit}
      (reached : Reaches begun table visits) (id : String) (purpose : Purpose) :
      Reaches ((id, purpose) :: begun) table (⟨id, purpose, .seeking⟩ :: visits)
  | move {begun : List (String × Purpose)} {table next : LockTable} {visit : Visit}
      {moved : Option Visit} (before : List Visit) {after : List Visit}
      (reached : Reaches begun table (before ++ visit :: after))
      (moves : Move (before ++ after) table visit next moved) :
      Reaches begun next (before ++ (moved.toList ++ after))

/-! ### Operations on the table -/

section Operations

variable {table after : LockTable} {id : String} {lock : Lock}

/-- Obtaining the lock of an id: that of its entry, or else a new one that becomes its entry. -/
inductive Obtains (table : LockTable) (id : String) : Lock → LockTable → Prop where
  | known {lock : Lock} (entry : table.entries.get? id = some lock) :
      Obtains table id lock { table with handles := lock :: table.handles }
  | new (absent : table.entries.get? id = none) :
      Obtains table id ⟨table.fresh⟩
        { entries := table.entries.insert id ⟨table.fresh⟩
          handles := ⟨table.fresh⟩ :: table.handles
          fresh := table.fresh + 1 }

theorem find?_eq_none_iff : table.find? id = none ↔ table.entries.get? id = none := by
  simp [find?]

theorem obtains_of_find? (h : table.find? id = some (lock, after)) :
    Obtains table id lock after := by
  obtain ⟨known, hentry, heq⟩ := Option.map_eq_some_iff.1 h
  cases heq
  exact .known hentry

theorem obtains_of_acquire (h : table.acquire id = (lock, after)) :
    Obtains table id lock after := by
  unfold acquire at h
  cases hfind : table.find? id with
  | some found =>
      rw [hfind] at h
      exact obtains_of_find? (hfind.trans (congrArg some h))
  | none =>
      rw [hfind] at h
      cases h
      exact .new (find?_eq_none_iff.1 hfind)

/-- Releasing an id changes the table only if the id has an entry to which nobody has a handle. -/
theorem release_cases (table : LockTable) (id : String) :
    (table.release id).2 = table ∧
        (∀ lock, table.entries.get? id = some lock → lock ∈ table.handles) ∨
      (table.release id).2 = table.without id ∧
        ∃ lock, table.entries.get? id = some lock ∧ lock ∉ table.handles := by
  unfold release
  cases hentry : table.entries.get? id with
  | none => exact .inl ⟨rfl, by simp⟩
  | some lock =>
      by_cases hheld : lock ∈ table.handles
      · have hisHeld : table.isHeld lock = true := by simpa [isHeld] using hheld
        exact .inl ⟨by simp [hisHeld], by simpa using hheld⟩
      · have hisHeld : table.isHeld lock = false := by simpa [isHeld] using hheld
        exact .inr ⟨by simp [hisHeld], lock, rfl, hheld⟩

end Operations

/-! ### One lock for each id -/

/-- What holds of a table at any time: its handles are those of the visits in progress and lead to
the entries, locks in it are distinct, and no two visits keep one lock shut. -/
structure Sound (table : LockTable) (visits : List Visit) : Prop where
  handles : table.handles.Perm (visits.filterMap Visit.lock?)
  entry : ∀ visit ∈ visits, ∀ lock, visit.lock? = some lock →
    table.entries.get? visit.id = some lock
  number : ∀ id lock, table.entries.get? id = some lock → lock.number < table.fresh
  distinct : ∀ id other lock, table.entries.get? id = some lock →
    table.entries.get? other = some lock → id = other
  shut : (visits.filterMap Visit.shut?).Nodup

namespace Sound

variable {table after : LockTable} {visits others : List Visit} {visit : Visit} {id : String}
  {lock : Lock}

theorem empty : Sound {} [] where
  handles := .refl _
  entry := by simp
  number := by simp
  distinct := by simp
  shut := by simp

theorem perm {visits' : List Visit} (h : Sound table visits) (hperm : visits.Perm visits') :
    Sound table visits' where
  handles := h.handles.trans (hperm.filterMap _)
  entry visit hmem := h.entry visit (hperm.mem_iff.2 hmem)
  number := h.number
  distinct := h.distinct
  shut := (hperm.filterMap _).nodup_iff.1 h.shut

theorem mem_handles_iff (h : Sound table visits) :
    lock ∈ table.handles ↔ ∃ visit ∈ visits, visit.lock? = some lock := by
  rw [h.handles.mem_iff, List.mem_filterMap]

theorem lock_eq_iff {other : Visit} {lock' : Lock} (h : Sound table visits)
    (hvisit : visit ∈ visits) (hother : other ∈ visits) (hlock : visit.lock? = some lock)
    (hlock' : other.lock? = some lock') : lock = lock' ↔ visit.id = other.id := by
  have hentry := h.entry visit hvisit lock hlock
  have hentry' := h.entry other hother lock' hlock'
  constructor
  · rintro rfl
    exact h.distinct _ _ lock hentry hentry'
  · intro hid
    rw [hid, hentry'] at hentry
    exact (Option.some.inj hentry).symm

/-- A visit that has no handle may begin or end at any time. -/
theorem cons_iff (hlock : visit.lock? = none) (hshut : visit.shut? = none) :
    Sound table (visit :: others) ↔ Sound table others := by
  constructor
  · intro h
    obtain ⟨handles, entry, number, distinct, shut⟩ := h
    rw [List.filterMap_cons_none hlock] at handles
    rw [List.filterMap_cons_none hshut] at shut
    exact ⟨handles, (List.forall_mem_cons.1 entry).2, number, distinct, shut⟩
  · intro h
    refine ⟨?_, List.forall_mem_cons.2 ⟨by simp [hlock], h.entry⟩, h.number, h.distinct, ?_⟩
    · rw [List.filterMap_cons_none hlock]
      exact h.handles
    · rw [List.filterMap_cons_none hshut]
      exact h.shut

theorem shut_tail (h : Sound table (visit :: others)) :
    (others.filterMap Visit.shut?).Nodup := by
  have hnodup := h.shut
  rw [List.filterMap_cons] at hnodup
  split at hnodup
  · exact hnodup
  · exact hnodup.of_cons

/-- A visit may shut its lock if no other visit keeps it shut. -/
theorem restage {moved : Visit} (h : Sound table (visit :: others)) (hid : moved.id = visit.id)
    (hlock : moved.lock? = visit.lock?)
    (hshut : ∀ lock, moved.shut? = some lock → ∀ other ∈ others, other.shut? ≠ some lock) :
    Sound table (moved :: others) := by
  have hentry := List.forall_mem_cons.1 h.entry
  refine ⟨?_, List.forall_mem_cons.2 ⟨?_, hentry.2⟩, h.number, h.distinct, ?_⟩
  · have hhandles := h.handles
    rw [List.filterMap_cons] at hhandles ⊢
    rwa [hlock]
  · rw [hid, hlock]
    exact hentry.1
  · cases hmoved : moved.shut? with
    | none =>
        rw [List.filterMap_cons_none hmoved]
        exact h.shut_tail
    | some lock =>
        rw [List.filterMap_cons_some hmoved, List.nodup_cons]
        refine ⟨fun hmem => ?_, h.shut_tail⟩
        obtain ⟨other, hother, hsame⟩ := List.mem_filterMap.1 hmem
        exact hshut lock hmoved other hother hsame

theorem obtains {purpose : Purpose} (h : Sound table others)
    (hobtains : Obtains table id lock after) :
    Sound after (⟨id, purpose, .having .waiting lock⟩ :: others) := by
  cases hobtains with
  | known hentry =>
      refine ⟨h.handles.cons lock, List.forall_mem_cons.2 ⟨?_, h.entry⟩, h.number, h.distinct,
        h.shut⟩
      rintro _ ⟨⟩
      exact hentry
  | new habsent =>
      -- the new lock is in no entry, since those have smaller numbers
      have hnew : ∀ other, table.entries.get? other ≠ some ⟨table.fresh⟩ := fun other hother =>
        Nat.lt_irrefl _ (h.number other _ hother)
      have hold : ∀ other lock, table.entries.get? other = some lock → other ≠ id := by
        rintro other lock hother rfl
        rw [habsent] at hother
        contradiction
      refine ⟨h.handles.cons _, List.forall_mem_cons.2 ⟨?_, ?_⟩, ?_, ?_, h.shut⟩
      · rintro _ ⟨⟩
        simp [NameMap.get?_insert]
      · intro visit hvisit lock hlock
        have hentry := h.entry visit hvisit lock hlock
        simpa [NameMap.get?_insert, (hold _ _ hentry).symm] using hentry
      · intro other lock hother
        rw [NameMap.get?_insert] at hother
        split at hother
        · cases hother
          exact Nat.lt_succ_self _
        · exact Nat.lt_succ_of_lt (h.number other lock hother)
      · intro first second lock hfirst hsecond
        rw [NameMap.get?_insert] at hfirst hsecond
        split at hfirst
        next heq =>
          split at hsecond
          next heq' => exact heq.symm.trans heq'
          next =>
            cases hfirst
            exact absurd hsecond (hnew second)
        next =>
          split at hsecond
          next =>
            cases hsecond
            exact absurd hfirst (hnew first)
          next => exact h.distinct first second lock hfirst hsecond

theorem dropped (h : Sound table (visit :: others)) (hlock : visit.lock? = some lock) :
    Sound (table.drop lock) others := by
  have hhandles := h.handles
  rw [List.filterMap_cons_some hlock] at hhandles
  refine ⟨?_, (List.forall_mem_cons.1 h.entry).2, h.number, h.distinct, h.shut_tail⟩
  have herase := hhandles.erase lock
  rwa [List.erase_cons_head] at herase

theorem released (h : Sound table others) : Sound (table.release id).2 others := by
  rcases release_cases table id with ⟨hsame, -⟩ | ⟨hwithout, lock, hentry, hfree⟩
  · rw [hsame]
    exact h
  · rw [hwithout]
    refine ⟨h.handles, fun visit hvisit other hother => ?_, fun other lock hother => ?_,
      fun first second lock hfirst hsecond => ?_, h.shut⟩
    · -- nobody has a handle to the lock that goes
      have hkept := h.entry visit hvisit other hother
      have hne : id ≠ visit.id := by
        rintro rfl
        rw [hentry] at hkept
        cases hkept
        exact hfree (h.mem_handles_iff.2 ⟨visit, hvisit, hother⟩)
      simpa [without, NameMap.get?_erase, hne] using hkept
    · simp only [without, NameMap.get?_erase, Option.ite_none_left_eq_some] at hother
      exact h.number other lock hother.2
    · simp only [without, NameMap.get?_erase, Option.ite_none_left_eq_some] at hfirst hsecond
      exact h.distinct first second lock hfirst.2 hsecond.2

/-- No move of a visit breaks what holds of the table. -/
theorem move {next : LockTable} {moved : Option Visit} (h : Sound table (visit :: others))
    (hmove : Move others table visit next moved) : Sound next (moved.toList ++ others) := by
  cases hmove with
  | find known => exact ((cons_iff rfl rfl).1 h).obtains (obtains_of_find? known)
  | miss unknown => exact h.restage rfl rfl nofun
  | acquire made => exact ((cons_iff rfl rfl).1 h).obtains (obtains_of_acquire made)
  | enter free =>
      refine h.restage rfl rfl ?_
      rintro _ ⟨⟩
      exact free
  | finish => exact h.restage rfl rfl nofun
  | drop idle => exact h.dropped rfl
  | dropUsed => exact (cons_iff rfl rfl).2 (h.dropped rfl)
  | release => exact ((cons_iff rfl rfl).1 h).released

end Sound

theorem Reaches.sound {begun : List (String × Purpose)} {table : LockTable} {visits : List Visit}
    (h : Reaches begun table visits) : Sound table visits := by
  induction h with
  | empty => exact .empty
  | begin reached id purpose ih => exact (Sound.cons_iff rfl rfl).2 ih
  | move before reached moves ih =>
      have hnext := (ih.perm List.perm_middle).move moves
      exact hnext.perm (List.perm_append_comm_assoc _ _ _)

/-! ### Entries that nobody needs -/

theorem Visit.HasCome.of_lock? {visit : Visit} {lock : Lock} (h : visit.lock? = some lock) :
    visit.HasCome := by
  obtain ⟨id, purpose, stage⟩ := visit
  cases stage with
  | having use lock => exact ⟨nofun, nofun⟩
  | _ => contradiction

/-- Whether somebody who has come to the lock of an id is still there if the id has an entry. -/
def Tended (id : String) (table : LockTable) (visits : List Visit) : Prop :=
  ∀ lock, table.entries.get? id = some lock → ∃ visit ∈ visits, visit.id = id ∧ visit.HasCome

namespace Tended

variable {table : LockTable} {visits others : List Visit} {visit moved : Visit} {id : String}

theorem perm {visits' : List Visit} (h : Tended id table visits) (hperm : visits.Perm visits') :
    Tended id table visits' := by
  intro lock hlock
  obtain ⟨visit, hvisit, hcome⟩ := h lock hlock
  exact ⟨visit, hperm.mem_iff.1 hvisit, hcome⟩

theorem cons (h : Tended id table others) (visit : Visit) : Tended id table (visit :: others) := by
  intro lock hlock
  obtain ⟨other, hother, hcome⟩ := h lock hlock
  exact ⟨other, List.mem_cons_of_mem visit hother, hcome⟩

/-- A visit elsewhere, or one that has not come yet, takes nothing away when it is over. -/
theorem tail (h : Tended id table (visit :: others)) (hvisit : visit.id = id → ¬visit.HasCome) :
    Tended id table others := by
  intro lock hlock
  obtain ⟨other, hother, hid, hcome⟩ := h lock hlock
  rcases List.mem_cons.1 hother with rfl | hother
  · exact absurd hcome (hvisit hid)
  · exact ⟨other, hother, hid, hcome⟩

theorem restage (h : Tended id table (visit :: others)) (hid : moved.id = visit.id)
    (hcome : moved.HasCome) : Tended id table (moved :: others) := by
  intro lock hlock
  obtain ⟨other, hother, hother', hcome'⟩ := h lock hlock
  rcases List.mem_cons.1 hother with rfl | hother
  · exact ⟨moved, List.mem_cons_self, hid.trans hother', hcome⟩
  · exact ⟨other, List.mem_cons_of_mem moved hother, hother', hcome'⟩

theorem obtains {name : String} {purpose : Purpose} {lock : Lock} {after : LockTable}
    (h : Tended id table others) (hobtains : Obtains table name lock after) :
    Tended id after (⟨name, purpose, .having .waiting lock⟩ :: others) := by
  by_cases hname : name = id
  · intro _ _
    exact ⟨_, List.mem_cons_self, hname, .of_lock? rfl⟩
  · cases hobtains with
    | known hentry => exact h.cons _
    | new habsent =>
        intro lock hlock
        rw [NameMap.get?_insert, if_neg hname] at hlock
        exact h.cons _ lock hlock

theorem released {name : String} (hsound : Sound table others)
    (h : Tended id table (⟨name, .event, .leaving⟩ :: others)) :
    Tended id (table.release name).2 others := by
  intro lock hlock
  rcases release_cases table name with ⟨hsame, hheld⟩ | ⟨hwithout, -⟩
  · rw [hsame] at hlock
    by_cases hname : name = id
    · -- the entry is still there because somebody else has a handle to its lock
      subst hname
      obtain ⟨other, hother, hother'⟩ := hsound.mem_handles_iff.1 (hheld lock hlock)
      have hentry := hsound.entry other hother lock hother'
      exact ⟨other, hother, hsound.distinct _ _ lock hentry hlock, .of_lock? hother'⟩
    · exact h.tail (fun heq => absurd heq hname) lock hlock
  · rw [hwithout] at hlock
    simp only [without, NameMap.get?_erase, Option.ite_none_left_eq_some] at hlock
    exact h.tail (fun heq => absurd heq hlock.1) lock hlock.2

theorem move {next : LockTable} {result : Option Visit} (hsound : Sound table (visit :: others))
    (h : Tended id table (visit :: others)) (hpurpose : visit.id = id → visit.purpose = .event)
    (hmove : Move others table visit next result) : Tended id next (result.toList ++ others) := by
  cases hmove with
  | find known => exact (h.tail fun _ hcome => hcome.1 rfl).obtains (obtains_of_find? known)
  | miss unknown => exact (h.tail fun _ hcome => hcome.1 rfl).cons _
  | acquire made => exact (h.tail fun _ hcome => hcome.2 rfl).obtains (obtains_of_acquire made)
  | enter free => exact h.restage rfl (.of_lock? rfl)
  | finish => exact h.restage rfl (.of_lock? rfl)
  | drop idle => exact h.tail fun hid => nomatch hpurpose hid
  | dropUsed => exact h.restage rfl ⟨nofun, nofun⟩
  | release => exact released ((Sound.cons_iff rfl rfl).1 hsound) h

end Tended

namespace Reaches

variable {begun : List (String × Purpose)} {table : LockTable} {visits : List Visit} {id : String}

theorem mem_begun (h : Reaches begun table visits) :
    ∀ visit ∈ visits, (visit.id, visit.purpose) ∈ begun := by
  induction h with
  | empty => simp
  | begin reached id purpose ih =>
      refine List.forall_mem_cons.2 ⟨List.mem_cons_self, fun visit hvisit => ?_⟩
      exact List.mem_cons_of_mem _ (ih visit hvisit)
  | move before reached moves ih =>
      have hvisit := ih _ (List.mem_append_right before List.mem_cons_self)
      intro other hother
      rw [List.mem_append, List.mem_append, Option.mem_toList] at hother
      rcases hother with hother | hother | hother
      · exact ih other (by simp [hother])
      · -- a visit keeps its id and its purpose
        cases moves <;> cases hother <;> exact hvisit
      · exact ih other (by simp [hother])

theorem tended (h : Reaches begun table visits)
    (hbegun : ∀ purpose, (id, purpose) ∈ begun → purpose = .event) : Tended id table visits := by
  induction h with
  | empty => intro lock hlock; cases hlock
  | begin reached other purpose ih =>
      exact (ih fun purpose hmem => hbegun purpose (List.mem_cons_of_mem _ hmem)).cons _
  | move before reached moves ih =>
      have hmem := reached.mem_begun _ (List.mem_append_right before List.mem_cons_self)
      have hnext := Tended.move (reached.sound.perm List.perm_middle)
        ((ih hbegun).perm List.perm_middle) (fun hid => hbegun _ (hid ▸ hmem)) moves
      exact hnext.perm (List.perm_append_comm_assoc _ _ _)

/-- Handling an event under a lock is one way to make these moves, with none of others between
them, when nobody keeps the lock shut. -/
theorem triggerLocked {ω E : Type} [Stateful E] (definition : Definition ω E)
    (persister : Persister ω E) (scene : Scene ω E) (h : Reaches begun table visits)
    (hfree : ∀ visit ∈ visits, visit.id = Stateful.id scene.context.entity → visit.shut? = none) :
    Reaches ((Stateful.id scene.context.entity, .event) :: begun)
      (definition.triggerLocked persister table scene).2.2 visits := by
  generalize hid : Stateful.id scene.context.entity = id at hfree
  have hbegin := h.begin id .event
  obtain ⟨lock, after, hacquire⟩ : ∃ lock after, table.acquire id = (lock, after) := ⟨_, _, rfl⟩
  have hcome : Reaches ((id, .event) :: begun) after
      (⟨id, .event, .having .waiting lock⟩ :: visits) := by
    cases hfind : table.find? id with
    | some found =>
        have hsame : found = (lock, after) := by
          unfold acquire at hacquire
          rwa [hfind] at hacquire
        exact hbegin.move [] (.find (hfind.trans (congrArg some hsame)))
    | none =>
        have hmissed := hbegin.move [] (.miss hfind)
        exact hmissed.move [] (.acquire hacquire)
  have hentered : Reaches ((id, .event) :: begun) after
      (⟨id, .event, .having .working lock⟩ :: visits) := by
    refine hcome.move [] (.enter fun other hother hshut => ?_)
    have hid := (hcome.sound.lock_eq_iff (List.mem_cons_of_mem _ hother) List.mem_cons_self
      (Visit.lock?_of_shut? hshut) rfl).1 rfl
    rw [hfree other hother hid] at hshut
    contradiction
  have hfinished := hentered.move [] .finish
  have hdropped := hfinished.move [] .dropUsed
  have hreleased := hdropped.move [] .release
  simpa [Definition.triggerLocked, hid, hacquire] using hreleased

/-- **One lock for each id, and none left behind.** However visits overlap, the handles that are out
are those of the visits, each to the lock that the table has for the id; so two visits have the
same lock exactly if they are to the same id, and only one of them works at a time. An id that is
only visited to handle events has no entry when nobody visits it. -/
theorem one_lock_each (h : Reaches begun table visits) :
    table.handles.Perm (visits.filterMap Visit.lock?) ∧
    (∀ visit ∈ visits, ∀ lock, visit.lock? = some lock →
      table.entries.get? visit.id = some lock) ∧
    (∀ visit ∈ visits, ∀ other ∈ visits, ∀ lock lock', visit.lock? = some lock →
      other.lock? = some lock' → (lock = lock' ↔ visit.id = other.id)) ∧
    (visits.Pairwise fun visit other =>
      visit.id = other.id → visit.shut? = none ∨ other.shut? = none) ∧
    ∀ id, (∀ purpose, (id, purpose) ∈ begun → purpose = .event) →
      (∀ visit ∈ visits, visit.id ≠ id) → table.entries.get? id = none := by
  have hsound := h.sound
  refine ⟨hsound.handles, hsound.entry, ?_, ?_, ?_⟩
  · intro visit hvisit other hother lock lock' hlock hlock'
    exact hsound.lock_eq_iff hvisit hother hlock hlock'
  · have hpairwise := List.pairwise_filterMap.1 hsound.shut
    refine hpairwise.imp_of_mem fun {visit other} hvisit hother hne hid => ?_
    cases hshut : visit.shut? with
    | none => exact .inl rfl
    | some lock =>
        refine .inr (Option.eq_none_iff_forall_ne_some.2 fun lock' hshut' => ?_)
        have hsame := hsound.lock_eq_iff hvisit hother (Visit.lock?_of_shut? hshut)
          (Visit.lock?_of_shut? hshut')
        exact hne lock hshut lock' hshut' (hsame.2 hid)
  · intro id hevents hover
    refine Option.eq_none_iff_forall_ne_some.2 fun lock hlock => ?_
    obtain ⟨visit, hvisit, hid, -⟩ := h.tended hevents lock hlock
    exact hover visit hvisit hid

end Reaches

/-- The table after two events for one entity, whose callers both missed its entry, while somebody
has a handle to the lock of another entity. -/
def handedOver : LockTable where
  entries := .ofList [("t-2", ⟨1⟩)]
  handles := [⟨1⟩]
  fresh := 2

theorem reaches_handedOver :
    Reaches [("t-2", .handle), ("t-1", .event), ("t-1", .event)] handedOver
      [⟨"t-2", .handle, .having .waiting ⟨1⟩⟩] := by
  have hbegun := ((Reaches.empty.begin "t-1" .event).begin "t-1" .event).begin "t-2" .handle
  have hmissed := ((hbegun.move [] (.miss rfl)).move [_] (.miss rfl)).move [_, _] (.miss rfl)
  have hfirst := (hmissed.move [_, _] (.acquire rfl)).move [_, _] (.enter (by decide))
  have hboth := (hfirst.move [_] (.acquire rfl)).move [] (.acquire rfl)
  -- the first caller releases the entry while the second has a handle, so it stays
  have hleft := ((hboth.move [_, _] .finish).move [_, _] .dropUsed).move [_, _] .release
  have hworked := (hleft.move [_] (.enter (by decide))).move [_] .finish
  exact (hworked.move [_] .dropUsed).move [_] .release

theorem one_lock_each_handedOver :
    Reaches [("t-2", .handle), ("t-1", .event), ("t-1", .event)] handedOver
        [⟨"t-2", .handle, .having .waiting ⟨1⟩⟩] ∧
      handedOver.entries.get? "t-2" = some ⟨1⟩ ∧ handedOver.entries.get? "t-1" = none := by
  obtain ⟨-, hentry, -, -, hgone⟩ := reaches_handedOver.one_lock_each
  refine ⟨reaches_handedOver, hentry _ List.mem_cons_self _ rfl, hgone "t-1" ?_ ?_⟩
  · intro purpose hbegun
    simpa using hbegun
  · intro visit hvisit
    rw [List.mem_singleton] at hvisit
    rw [hvisit]
    decide

end GridMachine.LockTable
