import GridMachine.NameMap

/-!
Locks of entities, one for each id that is in use. A lock lives in the table under its id; callers
hold handles to it. An entry may be released once no caller holds a handle to its lock, so that two
callers never have different locks for one id.
-/

namespace GridMachine

/-- A lock, known by its number. -/
structure Lock where
  number : Nat
deriving DecidableEq

structure LockTable where
  /-- The lock of each id. -/
  entries : NameMap Lock := .empty
  /-- The locks to which callers hold handles, once for each handle. -/
  handles : List Lock := []
  /-- The number of the next new lock. -/
  fresh : Nat := 0

namespace LockTable

/-- A handle to the lock of an id that has one. -/
def find? (table : LockTable) (id : String) : Option (Lock × LockTable) :=
  (table.entries.get? id).map fun lock => (lock, { table with handles := lock :: table.handles })

/-- A handle to the lock of an id, which is a new one if the id has none. -/
def acquire (table : LockTable) (id : String) : Lock × LockTable :=
  match table.find? id with
  | some found => found
  | none =>
      let lock : Lock := ⟨table.fresh⟩
      (lock,
        { entries := table.entries.insert id lock
          handles := lock :: table.handles
          fresh := table.fresh + 1 })

/-- The table when one handle to the lock is given up. -/
def drop (table : LockTable) (lock : Lock) : LockTable :=
  { table with handles := table.handles.erase lock }

/-- Whether a caller holds a handle to the lock. -/
def isHeld (table : LockTable) (lock : Lock) : Bool := table.handles.contains lock

/-- The table without the entry of an id. -/
def without (table : LockTable) (id : String) : LockTable :=
  { table with entries := table.entries.erase id }

/-- Removes the entry of an id unless a caller holds a handle to its lock; tells whether it did. -/
def release (table : LockTable) (id : String) : Bool × LockTable :=
  match table.entries.get? id with
  | none => (false, table)
  | some lock => if table.isHeld lock then (false, table) else (true, table.without id)

/-- Removes the entry of an id, whoever holds a handle to its lock; tells whether there was one. -/
def remove (table : LockTable) (id : String) : Bool × LockTable :=
  match table.entries.get? id with
  | none => (false, table)
  | some _ => (true, table.without id)

def size (table : LockTable) : Nat := table.entries.size

def isEmpty (table : LockTable) : Bool := table.entries.entries.isEmpty

end LockTable

end GridMachine
