import GridMachine.Document.Reading
import GridMachine.Json.Outline
import GridMachine.Json.Printer
import GridMachine.Manifest.Basic
import GridMachine.Text.Blank
import GridMachine.Yaml.Outline

/-!
Manifests read from documents and written as JSON. Unknown fields are passed over; a field that is
given twice is a fault as soon as its name is met again, and a missing grid is noticed when the
fields end.
-/

namespace GridMachine.Manifest

open Document

/-- The fields of a manifest as far as they have been read. -/
structure Draft where
  definition : Option String := none
  entityType : Option (Option String) := none
  evaluators : Option (NameMap String) := none
  actions : Option (NameMap String) := none
  defaultPath : Option (Option (List String)) := none

variable {α : Type} (reading : Reading α)

/-- A map from names to texts; of a repeated name the last text counts. -/
def readNames (node : Node α) : Except Fault (NameMap String) :=
  reading.record readEntry .empty node
where
  readEntry (names : NameMap String) (name : String) (value : Node α) :
      Except Fault (NameMap String) := do
    let text ← reading.text value
    return names.insert name text

namespace Draft

/-- One field more. -/
def readField (draft : Draft) (name : String) (value : Node α) : Except Fault Draft :=
  match name with
  | "definition" => do
      let read ← Reading.once "definition" draft.definition reading.text value
      return { draft with definition := read }
  | "entityType" | "entityClassType" => do
      let read ← Reading.once "entityType" draft.entityType (reading.optional reading.text) value
      return { draft with entityType := read }
  | "transitionEvaluators" => do
      let read ← Reading.once "transitionEvaluators" draft.evaluators (readNames reading) value
      return { draft with evaluators := read }
  | "transitionActions" => do
      let read ← Reading.once "transitionActions" draft.actions (readNames reading) value
      return { draft with actions := read }
  | "defaultPath" => do
      let read ←
        Reading.once "defaultPath" draft.defaultPath (reading.optional reading.texts) value
      return { draft with defaultPath := read }
  | _ => do
      Reading.skip value
      return draft

/-- The manifest with the fields that have been read. -/
def finish (draft : Draft) : Except Fault Manifest :=
  match draft.definition with
  | none => .error (.missingField "definition")
  | some definition =>
      .ok
        { definition
          entityType := draft.entityType.getD none
          evaluators := draft.evaluators.getD .empty
          actions := draft.actions.getD .empty
          defaultPath := draft.defaultPath.getD none }

end Draft

/-- The manifest that a record holds. -/
def ofRecord (node : Node α) : Except Fault Manifest := do
  let draft ← reading.record (Draft.readField reading) {} node
  draft.finish

/-- The manifest that a list holds: the fields by their places, of which the first is required. -/
def ofItems : List (Node α) → Except Fault Manifest
  | definition :: items => do
      let definition ← reading.text definition
      let entityType ← readAt items 0 none (reading.optional reading.text)
      let evaluators ← readAt items 1 .empty (readNames reading)
      let actions ← readAt items 2 .empty (readNames reading)
      let defaultPath ← readAt items 3 none (reading.optional reading.texts)
      if items.length ≤ 4 then
        return { definition, entityType, evaluators, actions, defaultPath }
      else throw .malformed
  | [] => .error .malformed
where
  /-- The value of one place, or the default if the list ends before it. -/
  readAt {β : Type} (items : List (Node α)) (index : Nat) (default : β)
      (read : Node α → Except Fault β) : Except Fault β :=
    match items[index]? with
    | some node => read node
    | none => .ok default

/-- The manifest of a JSON node, which may be an object or an array. -/
def ofJsonNode : Node Json.Leaf → Except Fault Manifest
  | .list items => ofItems Json.reading items
  | node => ofRecord Json.reading node

/-- The manifest that a JSON text holds. -/
def ofJsonText (cs : List Char) : Except Fault Manifest :=
  Reading.whole ofJsonNode (Json.outline cs)

/-- The manifest that a YAML text holds. -/
def ofYamlText (cs : List Char) : Except Fault Manifest :=
  let parsed := Yaml.parse cs
  Reading.whole (ofRecord parsed.reading) parsed.outline

/-- The manifest that a text holds, which is JSON if a brace is the first thing in it. -/
def parse (cs : List Char) : Except Fault Manifest :=
  if (Text.trimStart cs).head? = some '\x7b' then ofJsonText cs else ofYamlText cs

/-- The manifest that the bytes of a text hold. -/
def ofBytes (bytes : List UInt8) : Except Fault Manifest :=
  match String.fromUTF8? ⟨bytes.toArray⟩ with
  | some text => parse text.toList
  | none => .error .malformed

/-! ### Writing -/

/-- A map from names to texts as an object. -/
def namesToJson (names : NameMap String) : Json :=
  .object (names.entries.map fun (name, text) => (name, .text text))

/-- The fields in their order; those that are open are left out. -/
def fields (manifest : Manifest) : List (String × Json) :=
  [("definition", .text manifest.definition)] ++
    (manifest.entityType.toList.map fun entityType => ("entityType", .text entityType)) ++
    [("transitionEvaluators", namesToJson manifest.evaluators),
      ("transitionActions", namesToJson manifest.actions)] ++
    (manifest.defaultPath.toList.map fun path => ("defaultPath", .array (path.map .text)))

def toJson (manifest : Manifest) : Json := .object manifest.fields

/-- The JSON text of a manifest. -/
def toJsonText (manifest : Manifest) : List Char := Json.render manifest.toJson

end GridMachine.Manifest
