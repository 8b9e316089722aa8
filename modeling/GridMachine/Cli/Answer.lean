import GridMachine.Cli.Command
import GridMachine.Cli.Paint
import GridMachine.Cli.Session
import GridMachine.Machine.Trigger

/-!
Answers to commands: what a machine has to say, and how it is written.
-/

namespace GridMachine.Cli

inductive Answer where
  /-- How large the machine is, with the number of states of each path. -/
  | summary (manifest : Manifest) (states events transitions : Nat) (paths : List (String × Nat))
  | states (states : List State)
  | events (events : List Event)
  | targets (targets : List State)
  | path (name : String) (states : List State)
  /-- The transition that the event caused, with the state it led to. -/
  | fired (source target : State) (event : String) (actions : List String)
  | noTransition (source : State) (event : String)

/-! ### Finding the answer -/

/-- The name and the value of a parameter. A value is JSON, or a text if it is none; one that begins
with `@` is the JSON in a file. -/
def readParam (files : Files) (param : String) : Except CommandError (String × Json) :=
  match Text.splitFirst? '=' param.toList with
  | none => .error (.notKeyValue param)
  | some (key, value) =>
      let key := String.ofList (Text.trim key)
      match value with
      | '@' :: path =>
          let path := String.ofList path
          match files.text? path with
          | none => .error (.unreadable path)
          | some text =>
              match Json.parse? text.toList with
              | none => .error (.malformed path)
              | some value => .ok (key, value)
      | value => .ok (key, (Json.parse? value).getD (.text (.ofList value)))

namespace Session

/-- The event of a name: one without roles, if the machine does not know it. -/
def event (session : Session) (name : String) : Event :=
  (session.definition.events.find? (·.name = name)).getD (.unrestricted name)

/-- The events out of a state, or all events, that a caller with the roles may trigger; without
roles nothing is held back. -/
def eventsFor (session : Session) (state : Option String) (roles : List String) : List Event :=
  let events :=
    match state with
    | some name => session.definition.eventsFrom ⟨name⟩
    | none => session.definition.events
  if roles.isEmpty then events else events.filter (·.isAuthorisedFor roles)

/-- What becomes of an entity when the event happens to it. -/
def fire (files : Files) (session : Session) (firing : Firing) : Except CommandError Answer := do
  let event := session.event firing.event
  if !firing.roles.isEmpty && !event.isAuthorisedFor firing.roles then
    throw (.refused firing.roles event)
  let params ← firing.params.mapM (readParam files)
  let source : State := ⟨firing.state⟩
  let context : Context DryRun :=
    { event
      entity := ⟨source⟩
      params := if params.isEmpty then none else some (.ofList params) }
  match session.definition.trigger .idle ⟨context, ()⟩ with
  | (.error error, _) => throw (.machine error)
  | (.ok none, _) => return .noTransition source event.name
  | (.ok (some transition), scene) =>
      return .fired source scene.context.state event.name (transition.actions.map Action.name)

/-- How large the machine is. -/
def summary (session : Session) : Answer :=
  let definition := session.definition
  .summary session.manifest definition.states.length definition.events.length
    definition.transitionCount (definition.paths.entries.map fun (name, states) =>
      (name, states.length))

/-- The answer to a command. -/
def answer (files : Files) (session : Session) : Command → Except CommandError Answer
  | .check => .ok session.summary
  | .states => .ok (.states session.definition.states)
  | .events state roles => .ok (.events (session.eventsFor state roles))
  | .targets state => .ok (.targets (session.definition.targetsFrom ⟨state⟩))
  | .path name => .ok (.path name (session.definition.path name))
  | .fire firing => session.fire files firing

end Session

/-! ### Writing the answer -/

/-- The lines as one text. -/
def joinLines (lines : List String) : String := Text.joinWith "\n" lines

/-- One name to a line, or a notice if there is none. -/
def renderStates (isColoured : Bool) (notice : String) (states : List State) : String :=
  if states.isEmpty then paint isColoured .yellow notice
  else joinLines (states.map fun state => "  " ++ paint isColoured .cyan state.name)

def renderEvent (isColoured : Bool) (event : Event) : String :=
  let name := "  " ++ paint isColoured .cyan event.name
  match event.roles with
  | none => name
  | some roles => name ++ " [" ++ Text.joinWith ", " roles ++ "]"

/-- The text of an answer. -/
def Answer.render (isColoured : Bool) : Answer → String
  | .summary manifest stateCount eventCount transitionCount sizes =>
      joinLines
        ([paint isColoured .green "OK" ++ " " ++ paint isColoured .cyan manifest.definition,
          "  States: " ++ toString stateCount,
          "  Events: " ++ toString eventCount,
          "  Transitions: " ++ toString transitionCount] ++
          (manifest.entityType.toList.map fun entityType => "  Entity type: " ++ entityType) ++
          sizes.map fun (name, size) =>
            "  Path " ++ paint isColoured .cyan name ++ ": " ++ toString size ++ " states")
  | .states found => renderStates isColoured "No states defined" found
  | .events found =>
      if found.isEmpty then paint isColoured .yellow "No events"
      else joinLines (found.map (renderEvent isColoured))
  | .targets found => renderStates isColoured "No transitions out of this state" found
  | .path name found =>
      if found.isEmpty then
        paint isColoured .yellow ("No path named " ++ paint isColoured .cyan name)
      else Text.joinWith " -> " (found.map State.name)
  | .fired source target event actions =>
      paint isColoured .green "Fired" ++ " " ++ paint isColoured .yellow source.name ++ " --" ++
        paint isColoured .cyan event ++ "--> " ++ paint isColoured .yellow target.name ++
        "\n  Actions: " ++ Text.joinWith ", " actions
  | .noTransition source event =>
      paint isColoured .yellow "No transition" ++ " for " ++ paint isColoured .cyan event ++
        " in state " ++ source.name

/-- The text of the answer to a command. -/
def Session.execute (files : Files) (isColoured : Bool) (session : Session) (command : Command) :
    Except CommandError String :=
  Answer.render isColoured <$> session.answer files command

end GridMachine.Cli
