import GridMachine.Json.Printer
import GridMachine.Json.Reader
import GridMachine.Machine.Event

/-!
Events as JSON. An event is written as an object with its name and, unless everybody may trigger
it, its roles; it is read from such an object or from a bare name.
-/

namespace GridMachine.Event

open Document

def toJson (event : Event) : Json :=
  .object (("name", .text event.name) ::
    match event.roles with
    | none => []
    | some roles => [("roles", .array (roles.map .text))])

/-- The JSON text of an event. -/
def toJsonText (event : Event) : List Char := Json.render event.toJson

/-- The fields of an event as far as they have been read. -/
structure Draft where
  name : Option String := none
  roles : Option (Option (List String)) := none

/-- One field more; a field without a meaning is passed over. -/
def Draft.readField (draft : Draft) (name : String) (value : Node Json.Leaf) :
    Except Fault Draft :=
  match name with
  | "name" => do
      let read ← Reading.once name draft.name Json.reading.text value
      .ok { draft with name := read }
  | "roles" => do
      let read ← Reading.once name draft.roles (Json.reading.optional Json.reading.texts) value
      .ok { draft with roles := read }
  | _ => do
      Reading.skip value
      .ok draft

/-- The event a JSON node writes. -/
def ofNode : Node Json.Leaf → Except Fault Event
  | .leaf (.text name) => .ok (unrestricted name)
  | node => do
      let draft ← Json.reading.record Draft.readField {} node
      match draft.name with
      | some name => .ok ⟨name, draft.roles.getD none⟩
      | none => .error (.missingField "name")

/-- The event that a JSON text writes; the whole text has to be a JSON value. -/
def ofJsonText? (cs : List Char) : Option Event := do
  let outline := Json.outline cs
  let _ ← Json.ofOutline? outline
  (ofNode outline.root).toOption

end GridMachine.Event
