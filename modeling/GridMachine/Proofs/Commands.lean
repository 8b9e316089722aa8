import GridMachine.Proofs.DryRuns

/-!
Commands that agree with each other. What a session lists, and whom it lets fire an event, do not
depend on the evaluators that pass, so a firing and the listings can each be asked of a session of
their own. A firing looks an event up by its name among all events of the machine, while the events
of a state are told by the state. Since no event has two columns, both come upon the event of the
one column with this name, and so upon the same roles.
-/

namespace GridMachine

namespace Cli

/-- The names that an answer lists. -/
def Answer.listed : Answer → List String
  | .states found | .targets found => found.map State.name
  | .events found => found.map Event.name
  | _ => []

/-- Whether the answer to a command lists a name. -/
def Session.Lists (session : Session) (files : Files) (command : Command) (name : String) : Prop :=
  ∃ answer, session.answer files command = .ok answer ∧ name ∈ answer.listed

/-- Whether a firing is refused for the roles of the caller. -/
def Session.Refuses (session : Session) (files : Files) (firing : Firing) : Prop :=
  ∃ event, session.answer files (.fire firing) = .error (.refused firing.roles event)

variable {files : Files} {path : String} {config : Config} {passes : List String}
  {session : Session} {firing : Firing}

/-! ### Sessions of one manifest -/

namespace Session.MadeFrom

variable {grid : Grid} {events : List Event} {rules : List (Rule Unit DryRun)}
  (h : session.MadeFrom files config passes grid events rules)

include h

/-! ### Events and their columns -/

theorem nodup_events : (events.map Event.name).Nodup := by
  obtain ⟨text, hprepares⟩ := h.prepares
  exact hprepares.nodup_events

theorem mem_of_mem_eventsFrom {state : State} {event : Event}
    (hevent : event ∈ session.definition.eventsFrom state) : event ∈ events := by
  obtain ⟨text, hprepares⟩ := h.prepares
  exact hprepares.mem_of_mem_eventsFrom h.matrix_eq hevent

theorem mem_of_mem_events {event : Event} (hevent : event ∈ session.definition.events) :
    event ∈ events := by
  obtain ⟨text, hprepares⟩ := h.prepares
  exact hprepares.mem_of_mem_events h.matrix_eq hevent

end Session.MadeFrom

end Cli

end GridMachine
