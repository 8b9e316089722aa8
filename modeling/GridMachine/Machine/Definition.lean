import GridMachine.Machine.Component

/-!
Compiled machines. A definition holds, for each state and event, the candidates that compete for the
event in that state; the first whose guard passes is taken. It is built from a list of rules, whose
order within one state and event is the order of the candidates. The paths of a definition are named
sequences of its states.
-/

namespace GridMachine

/-- A guarded alternative for one state and event. -/
structure Candidate (ω E : Type) where
  evaluator : Option (Evaluator ω E)
  transition : Transition ω E

/-- A transition as it is declared, before it is given its place. -/
structure Rule (ω E : Type) where
  event : Event
  source : State
  target : Target ω E
  evaluator : Option (Evaluator ω E) := none
  actions : List (Action ω E) := []

/-- The candidates of one event, with the event as it was first declared. -/
structure Slot (ω E : Type) where
  event : Event
  candidates : List (Candidate ω E)

/-- The slots by the name of the state and then by the name of the event. -/
abbrev Matrix (ω E : Type) := NameMap (NameMap (Slot ω E))

structure Definition (ω E : Type) where
  matrix : Matrix ω E
  paths : NameMap (List State)
  listeners : List (Listener ω E)

variable {ω E : Type}

namespace Candidate

/-- Whether the guard passes; without a guard it always does. -/
def passes (candidate : Candidate ω E) (context : Context E) (world : ω) : Bool × ω :=
  match candidate.evaluator with
  | none => (true, world)
  | some evaluator => evaluator.evaluate context world

/-- The transition of the first candidate that passes; later ones are not asked. -/
def firstPassing (context : Context E) :
    List (Candidate ω E) → ω → Option (Transition ω E) × ω
  | [], world => (none, world)
  | candidate :: candidates, world =>
      match candidate.passes context world with
      | (true, world) => (some candidate.transition, world)
      | (false, world) => firstPassing context candidates world

end Candidate

namespace Rule

/-- The rule with one more action after the others. -/
def addAction (rule : Rule ω E) (action : Action ω E) : Rule ω E :=
  { rule with actions := rule.actions ++ [action] }

/-- The actions of the transition: an idle one if the rule has none. -/
def effectiveActions (rule : Rule ω E) : List (Action ω E) :=
  match rule.actions with
  | [] =>
      [.idle (rule.source.name ++ "->" ++ rule.event.name ++ "->" ++ rule.target.declared.name ++
        " action")]
  | actions => actions

/-- The candidate that the rule declares. -/
def candidate (rule : Rule ω E) : Candidate ω E :=
  ⟨rule.evaluator, ⟨rule.source, rule.target, rule.effectiveActions⟩⟩

end Rule

namespace Slot

/-- The slot with one more candidate at its end, or a new slot for the event. -/
def add (event : Event) (candidate : Candidate ω E) : Option (Slot ω E) → Slot ω E
  | none => ⟨event, [candidate]⟩
  | some slot => { slot with candidates := slot.candidates ++ [candidate] }

end Slot

namespace Matrix

/-- The matrix with the candidate of one more rule. -/
def addRule (matrix : Matrix ω E) (rule : Rule ω E) : Matrix ω E :=
  matrix.update rule.source.name fun row =>
    (row.getD .empty).update rule.event.name (Slot.add rule.event rule.candidate)

def ofRules (rules : List (Rule ω E)) : Matrix ω E := rules.foldl addRule .empty

/-- The slots of a state. -/
def row (matrix : Matrix ω E) (state : State) : NameMap (Slot ω E) :=
  (matrix.get? state.name).getD .empty

/-- The candidates for a state and an event, whatever the roles of the event. -/
def candidates (matrix : Matrix ω E) (state : State) (event : Event) : List (Candidate ω E) :=
  match (matrix.row state).get? event.name with
  | none => []
  | some slot => slot.candidates

/-- The transitions of a row, in the order of the events and then of the candidates. -/
def transitionsOf (row : NameMap (Slot ω E)) : List (Transition ω E) :=
  row.values.flatMap fun slot => slot.candidates.map Candidate.transition

/-- All transitions. -/
def transitions (matrix : Matrix ω E) : List (Transition ω E) :=
  matrix.values.flatMap transitionsOf

/-- The states from which or to which a transition leads, in the order of their names. -/
def states (matrix : Matrix ω E) : List State :=
  (NameMap.distinct
    (matrix.keys ++ matrix.transitions.map (·.target.declared.name))).map State.mk

end Matrix

namespace Definition

/-- The name of the path that a default path is kept under. -/
def defaultPathName : String := "default"

/-- The states of a path, if the machine has them all. -/
def checkPath (states : List State) (name : String) (path : List String) :
    Except MachineError (List State) :=
  match path.find? fun state => !states.contains ⟨state⟩ with
  | some state => .error (.invalidPath name state)
  | none => .ok (path.map State.mk)

/-- The paths by name, if the machine has all of their states. -/
def checkPaths (states : List State) :
    List (String × List String) → Except MachineError (List (String × List State))
  | [] => .ok []
  | (name, path) :: paths => do
      let path ← checkPath states name path
      let paths ← checkPaths states paths
      return (name, path) :: paths

/-- The definition with the given rules, paths and listeners. -/
def assemble (rules : List (Rule ω E)) (paths : List (String × List String))
    (listeners : List (Listener ω E)) : Except MachineError (Definition ω E) := do
  let matrix := Matrix.ofRules rules
  let paths ← checkPaths matrix.states paths
  return ⟨matrix, .ofList paths, listeners⟩

/-- The definition with the given rules and, if there is one, a default path. -/
def ofRules (rules : List (Rule ω E)) (defaultPath : Option (List String))
    (listeners : List (Listener ω E)) : Except MachineError (Definition ω E) :=
  assemble rules (defaultPath.toList.map fun path => (defaultPathName, path)) listeners

/-- The candidates for a state and an event. -/
def candidates (definition : Definition ω E) (state : State) (event : Event) :
    List (Candidate ω E) :=
  definition.matrix.candidates state event

/-- The transition that is taken for the event of the context, if any. -/
def resolve [Stateful E] (definition : Definition ω E) (context : Context E) (world : ω) :
    Option (Transition ω E) × ω :=
  Candidate.firstPassing context (definition.candidates context.state context.event) world

/-! ### Questions about a definition -/

/-- All states, in the order of their names. -/
def states (definition : Definition ω E) : List State := definition.matrix.states

/-- All events, in the order of their names. -/
def events (definition : Definition ω E) : List Event :=
  let slots := definition.matrix.values.flatMap NameMap.values
  (slots.foldl (fun events slot =>
    events.update slot.event.name fun known => known.getD slot.event) NameMap.empty).values

/-- The events that have a candidate out of a state, in the order of their names. -/
def eventsFrom (definition : Definition ω E) (state : State) : List Event :=
  (definition.matrix.row state).values.map Slot.event

/-- The events out of a state that a caller with these roles may trigger. -/
def authorisedEventsFrom (definition : Definition ω E) (state : State) (roles : List String) :
    List Event :=
  (definition.eventsFrom state).filter (·.isAuthorisedFor roles)

/-- The declared targets of the transitions out of a state, in the order of their names. -/
def targetsFrom (definition : Definition ω E) (state : State) : List State :=
  (NameMap.distinct
    ((Matrix.transitionsOf (definition.matrix.row state)).map (·.target.declared.name))).map
      State.mk

/-- Whether no single transition out of `current` leads to `target`. -/
def isViableTarget (definition : Definition ω E) (current target : State) : Bool :=
  !(definition.targetsFrom current).contains target

def transitionCount (definition : Definition ω E) : Nat := definition.matrix.transitions.length

/-- The states of a named path; none if there is no such path. -/
def path (definition : Definition ω E) (name : String) : List State :=
  (definition.paths.get? name).getD []

end Definition

end GridMachine
