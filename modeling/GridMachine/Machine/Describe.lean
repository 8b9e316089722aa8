import GridMachine.Machine.Definition
import GridMachine.Text.Quoted

/-!
Transitions and definitions as they are shown in diagnostics, in which components appear by their
names only.
-/

namespace GridMachine

/-- A state by its quoted name. -/
def State.describe (state : State) : String := "State(" ++ Text.quoted state.name ++ ")"

/-- States between brackets. -/
def State.describeList (states : List State) : String :=
  "[" ++ Text.joinWith ", " (states.map State.describe) ++ "]"

variable {ω E : Type}

def Target.describe : Target ω E → String
  | .fixed state => "Fixed(" ++ state.describe ++ ")"
  | .dynamic declared _ => "Dynamic \x7b declared: " ++ declared.describe ++ ", .. \x7d"

def Transition.describe (transition : Transition ω E) : String :=
  "Transition \x7b from: " ++ transition.source.describe ++
    ", target: " ++ transition.target.describe ++
    ", actions: " ++ Text.quotedList (transition.actions.map Action.name) ++ " \x7d"

/-- The states that transitions leave, the paths and the number of listeners. -/
def Definition.describe (definition : Definition ω E) : String :=
  let paths := definition.paths.entries.map fun (name, states) =>
    Text.quoted name ++ ": " ++ State.describeList states
  "Definition \x7b states: " ++ State.describeList (definition.matrix.keys.map State.mk) ++
    ", paths: \x7b" ++ Text.joinWith ", " paths ++ "\x7d" ++
    ", listeners: " ++ toString definition.listeners.length ++ ", .. \x7d"

end GridMachine
