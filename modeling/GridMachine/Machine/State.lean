import GridMachine.Json.Reader

/-!
States of a machine. A state is nothing but its name.
-/

namespace GridMachine

structure State where
  name : String
deriving DecidableEq, Inhabited

namespace State

def toJson (state : State) : Json := .text state.name

/-- The state that a JSON text names. -/
def ofJsonText? (cs : List Char) : Option State :=
  match Json.parse? cs with
  | some (.text name) => some ⟨name⟩
  | _ => none

end State

end GridMachine
