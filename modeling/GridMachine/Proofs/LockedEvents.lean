import GridMachine.Proofs.LockSharing
import Mathlib.Logic.Relation

/-!
Events handled under a lock, one call after another. What comes of an event is what comes of it
without the lock. The table is afterwards as before but for the id that the entity had at the
beginning, whatever became of the event and of the entity: there the entry has stayed if another
caller has a handle to its lock, and there is none otherwise.
-/

namespace GridMachine

namespace LockTable

/-! ### Tables that arise -/

/-- Whether a lock is in use: some caller has a handle to it, or it is the lock of some id. -/
def Uses (table : LockTable) (lock : Lock) : Prop :=
  lock ∈ table.handles ∨ ∃ id, table.entries.get? id = some lock

/-- Whether a new lock is none that is in use; it is so in every table that calls make of an empty
one. -/
def HasFresh (table : LockTable) : Prop := ∀ lock, table.Uses lock → lock.number < table.fresh

/-- What a single call makes of a table. -/
inductive Call (table : LockTable) : LockTable → Prop where
  | find {id : String} {lock : Lock} {found : LockTable}
      (known : table.find? id = some (lock, found)) : Call table found
  | acquire (id : String) : Call table (table.acquire id).2
  | drop (lock : Lock) : Call table (table.drop lock)
  | release (id : String) : Call table (table.release id).2
  | remove (id : String) : Call table (table.remove id).2

variable {table after : LockTable} {id : String} {lock : Lock}

namespace HasFresh

theorem empty : HasFresh {} := by
  rintro lock (hheld | ⟨id, hentry⟩)
  · cases hheld
  · cases hentry

theorem obtains (h : table.HasFresh) (hobtains : Obtains table id lock after) :
    after.HasFresh := by
  cases hobtains with
  | known hentry =>
      rintro other (hheld | hother)
      · rcases List.mem_cons.1 hheld with rfl | hheld
        · exact h other (.inr ⟨id, hentry⟩)
        · exact h other (.inl hheld)
      · exact h other (.inr hother)
  | new habsent =>
      rintro other (hheld | ⟨name, hother⟩)
      · rcases List.mem_cons.1 hheld with rfl | hheld
        · exact Nat.lt_succ_self _
        · exact Nat.lt_succ_of_lt (h other (.inl hheld))
      · rw [NameMap.get?_insert] at hother
        split at hother
        · cases hother
          exact Nat.lt_succ_self _
        · exact Nat.lt_succ_of_lt (h other (.inr ⟨name, hother⟩))

theorem drop (h : table.HasFresh) (lock : Lock) : (table.drop lock).HasFresh := by
  rintro other (hheld | hother)
  · exact h other (.inl (List.mem_of_mem_erase hheld))
  · exact h other (.inr hother)

theorem without (h : table.HasFresh) (id : String) : (table.without id).HasFresh := by
  rintro other (hheld | ⟨name, hother⟩)
  · exact h other (.inl hheld)
  · rw [LockTable.without, NameMap.get?_erase, Option.ite_none_left_eq_some] at hother
    exact h other (.inr ⟨name, hother.2⟩)

theorem release (h : table.HasFresh) (id : String) : (table.release id).2.HasFresh := by
  rcases release_cases table id with ⟨hsame, -⟩ | ⟨hwithout, -⟩
  · rwa [hsame]
  · rw [hwithout]
    exact h.without id

theorem remove (h : table.HasFresh) (id : String) : (table.remove id).2.HasFresh := by
  unfold LockTable.remove
  split
  · exact h
  · exact h.without id

/-- No call uses up the new locks. -/
theorem call (h : table.HasFresh) (hcall : Call table after) : after.HasFresh := by
  cases hcall with
  | find known => exact h.obtains (obtains_of_find? known)
  | acquire id => exact h.obtains (obtains_of_acquire rfl)
  | drop lock => exact h.drop lock
  | release id => exact h.release id
  | remove id => exact h.remove id

/-- Whatever is called on a table that was empty at first, there are new locks. -/
theorem of_calls (h : Relation.ReflTransGen Call {} table) : table.HasFresh := by
  induction h with
  | refl => exact .empty
  | tail _ hcall ih => exact ih.call hcall

theorem not_mem_handles (h : table.HasFresh) : ⟨table.fresh⟩ ∉ table.handles := fun hheld =>
  Nat.lt_irrefl _ (h ⟨table.fresh⟩ (.inl hheld))

end HasFresh

/-! ### Tables after an event -/

/-- What a caller who has used the lock of an id leaves of a table: the handles of others, the
entries of other ids, and the lock that the id had if one of these handles is to it. -/
structure Settles (id : String) (table after : LockTable) : Prop where
  handles : after.handles = table.handles
  elsewhere : ∀ other, other ≠ id → after.entries.get? other = table.entries.get? other
  kept : ∀ lock, after.entries.get? id = some lock ↔
    table.entries.get? id = some lock ∧ lock ∈ table.handles

theorem settles_release (table : LockTable) (id : String) :
    Settles id table (table.release id).2 := by
  rcases release_cases table id with ⟨hsame, hheld⟩ | ⟨hwithout, lock, hentry, hfree⟩
  · rw [hsame]
    exact ⟨rfl, fun _ _ => rfl, fun lock => (and_iff_left_of_imp (hheld lock)).symm⟩
  · rw [hwithout]
    constructor
    · rfl
    · intro other hother
      rw [without, NameMap.get?_erase, if_neg (Ne.symm hother)]
    · intro other
      rw [without, NameMap.get?_erase, if_pos rfl, hentry]
      constructor
      · rintro ⟨⟩
      · rintro ⟨⟨⟩, hheld⟩
        contradiction

theorem handles_drop_of_obtains (hobtains : Obtains table id lock after) :
    (after.drop lock).handles = table.handles := by
  cases hobtains with
  | known hentry => exact List.erase_cons_head lock table.handles
  | new habsent => exact List.erase_cons_head _ table.handles

theorem get?_of_obtains_elsewhere (hobtains : Obtains table id lock after) {other : String}
    (hother : other ≠ id) : after.entries.get? other = table.entries.get? other := by
  cases hobtains with
  | known hentry => rfl
  | new habsent => rw [NameMap.get?_insert, if_neg (Ne.symm hother)]

/-- A lock that was obtained for an id is in use by others only if it was there before. -/
theorem get?_of_obtains_iff (h : table.HasFresh) (hobtains : Obtains table id lock after)
    (other : Lock) : after.entries.get? id = some other ∧ other ∈ table.handles ↔
      table.entries.get? id = some other ∧ other ∈ table.handles := by
  cases hobtains with
  | known hentry => rfl
  | new habsent =>
      rw [NameMap.get?_insert, if_pos rfl, habsent]
      constructor
      · rintro ⟨⟨⟩, hheld⟩
        exact absurd hheld h.not_mem_handles
      · rintro ⟨⟨⟩, -⟩

theorem settles_of_obtains (h : table.HasFresh) (hobtains : Obtains table id lock after) :
    Settles id table ((after.drop lock).release id).2 := by
  obtain ⟨hhandles, helsewhere, hkept⟩ := settles_release (after.drop lock) id
  have hdropped := handles_drop_of_obtains hobtains
  constructor
  · exact hhandles.trans hdropped
  · intro other hother
    exact (helsewhere other hother).trans (get?_of_obtains_elsewhere hobtains hother)
  · intro other
    rw [hkept, hdropped]
    exact get?_of_obtains_iff h hobtains other

end LockTable

namespace Definition

variable {ω E : Type} [Stateful E]

/-- **A locked event is an event.** Whatever the machine, the entity and the locks in use, handling
an event under the lock of the entity ends as it does without, and leaves the same entity,
parameters and world. The table is as before but for the id that the entity had at the beginning,
which has the lock that it had if another caller has a handle to it, and none otherwise. -/
theorem triggerLocked_settles {table : LockTable} (h : table.HasFresh)
    (definition : Definition ω E) (persister : Persister ω E) (scene : Scene ω E) :
    (definition.triggerLocked persister table scene).1 = (definition.trigger persister scene).1 ∧
    (definition.triggerLocked persister table scene).2.1 = (definition.trigger persister scene).2 ∧
    LockTable.Settles (Stateful.id scene.context.entity) table
      (definition.triggerLocked persister table scene).2.2 ∧
    (definition.triggerLocked persister table scene).2.2.HasFresh := by
  have hobtains : LockTable.Obtains table (Stateful.id scene.context.entity)
      (table.acquire (Stateful.id scene.context.entity)).1
      (table.acquire (Stateful.id scene.context.entity)).2 := LockTable.obtains_of_acquire rfl
  refine ⟨rfl, rfl, LockTable.settles_of_obtains h hobtains, ?_⟩
  exact ((h.obtains hobtains).drop _).release _

end Definition

/-! ### A parcel -/

/-- An entity that has a label. -/
structure Parcel where
  label : String
  state : State

instance : Stateful Parcel where
  state := Parcel.state
  setState state parcel := { parcel with state }
  id := Parcel.label

/-- An action that gives the parcel another label and fails. -/
def Action.relabelling (label : String) : Action Unit Parcel where
  name := "relabel"
  execute scene :=
    (.error "torn", { scene with context.entity.label := label })

def parcelDefinition : Definition Unit Parcel where
  matrix := .ofRules
    [{ event := .unrestricted "Send", source := ⟨"Here"⟩, target := .fixed ⟨"There"⟩
       actions := [.relabelling "t-2"] }]
  paths := .empty
  listeners := []

def sentParcel (label : String) : Scene Unit Parcel :=
  ⟨⟨.unrestricted "Send", ⟨label, ⟨"Here"⟩⟩, none⟩, ()⟩

/-- Two parcels have locks, to the first of which there is a handle. Another handle is to a lock
whose entry was removed. -/
def crowdedTable : LockTable where
  entries := .ofList [("t-1", ⟨1⟩), ("t-2", ⟨2⟩)]
  handles := [⟨1⟩, ⟨0⟩]
  fresh := 3

theorem crowdedTable_hasFresh : crowdedTable.HasFresh := by
  have hremoved : Relation.ReflTransGen LockTable.Call {}
      { entries := .empty, handles := [⟨0⟩], fresh := 1 } :=
    .tail (.single (.acquire "t-3")) (.remove "t-3")
  have hobtained : Relation.ReflTransGen LockTable.Call {} (crowdedTable.acquire "t-2").2 :=
    (hremoved.tail (.acquire "t-1")).tail (.acquire "t-2")
  exact .of_calls (hobtained.tail (.drop ⟨2⟩))

/-- The parcel has another label at the end. The entry of its first label stays for the sake of the
handle, or goes, and that of its last label stays. -/
theorem triggerLocked_settles_relabelled :
    crowdedTable.HasFresh ∧
    (∃ scene after, parcelDefinition.triggerLocked .idle crowdedTable (sentParcel "t-1") =
        (.error (.actionFailed "relabel" "torn"), scene, after) ∧
      scene.context.entity.label = "t-2" ∧ after.entries.get? "t-1" = some ⟨1⟩ ∧
      after.entries.get? "t-2" = some ⟨2⟩) ∧
    (parcelDefinition.triggerLocked .idle crowdedTable (sentParcel "t-2")).2.2.entries.get? "t-2" =
      none := by
  obtain ⟨houtcome, hscene, hsettles, -⟩ := Definition.triggerLocked_settles crowdedTable_hasFresh
    parcelDefinition .idle (sentParcel "t-1")
  obtain ⟨-, -, hsecond, -⟩ := Definition.triggerLocked_settles crowdedTable_hasFresh
    parcelDefinition .idle (sentParcel "t-2")
  refine ⟨crowdedTable_hasFresh, ⟨_, _, Prod.ext houtcome rfl, ?_, ?_, ?_⟩, ?_⟩
  · exact congrArg (·.context.entity.label) hscene
  · exact (hsettles.kept ⟨1⟩).2 ⟨rfl, List.mem_cons_self⟩
  · exact hsettles.elsewhere "t-2" (by decide)
  · refine Option.eq_none_iff_forall_ne_some.2 fun lock hlock => ?_
    obtain ⟨hentry, hheld⟩ := (hsecond.kept lock).1 hlock
    cases hentry
    revert hheld
    decide

end GridMachine
