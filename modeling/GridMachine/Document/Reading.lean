import GridMachine.Document.Node

/-!
Values read from documents. What a leaf stands for is a matter of the notation and is given by a
`Reading`; how texts, lists and records are put together from leaves is the same for all notations.
The items of a record are read in the order of the text, and the first fault wins.
-/

namespace GridMachine.Document

/-- Why a document could not be read as a value. -/
inductive Fault where
  | malformed
  | missingField (name : String)
  | duplicateField (name : String)
deriving DecidableEq

/-- What the leaves of a notation stand for. -/
structure Reading (α : Type) where
  /-- The text a leaf is read as. -/
  text? : α → Option String
  /-- Whether a leaf stands for no value where one is optional; `none` if it fits neither way. -/
  isAbsent? : α → Option Bool
  /-- Whether a leaf stands for a collection without items. -/
  isEmptyCollection : α → Bool
  /-- The node a leaf refers to, if it is a reference. -/
  referent? : α → Option (Node α)

namespace Reading

variable {α β : Type} (reading : Reading α)

/-- The node itself, or the node that it refers to. -/
def resolve : Node α → Node α
  | .leaf value => (reading.referent? value).getD (.leaf value)
  | node => node

def text (node : Node α) : Except Fault String :=
  match reading.resolve node with
  | .leaf value =>
      match reading.text? value with
      | some text => .ok text
      | none => .error .malformed
  | _ => .error .malformed

/-- A value that may be left open. -/
def optional (read : Node α → Except Fault β) (node : Node α) : Except Fault (Option β) :=
  match reading.resolve node with
  | .leaf value =>
      match reading.isAbsent? value with
      | some true => .ok none
      | some false => some <$> read (.leaf value)
      | none => .error .malformed
  | .cut => .error .malformed
  | node => some <$> read node

def texts (node : Node α) : Except Fault (List String) :=
  match reading.resolve node with
  | .leaf value => if reading.isEmptyCollection value then .ok [] else .error .malformed
  | .list items => items.mapM reading.text
  | _ => .error .malformed

/-- The names and values of a record in turn, each handed to `step` with what came before. -/
def eachField (step : β → String → Node α → Except Fault β) :
    β → List (Node α) → Except Fault β
  | state, [] => .ok state
  | _, [_] => .error .malformed
  | state, name :: value :: items => do
      let name ← reading.text name
      let state ← step state name value
      eachField step state items

/-- The fields of a record, folded from the left. -/
def record (step : β → String → Node α → Except Fault β) (start : β) (node : Node α) :
    Except Fault β :=
  match reading.resolve node with
  | .leaf value => if reading.isEmptyCollection value then .ok start else .error .malformed
  | .record items => reading.eachField step start items
  | _ => .error .malformed

/-- A value that nobody asks for: only the end of the text is a fault. -/
def skip : Node α → Except Fault Unit
  | .cut => .error .malformed
  | _ => .ok ()

/-- A field that may be given once: its value is read unless it was given before. -/
def once (name : String) (given : Option β) (read : Node α → Except Fault β) (node : Node α) :
    Except Fault (Option β) :=
  match given with
  | some _ => .error (.duplicateField name)
  | none => some <$> read node

/-- A whole document read as a value. -/
def whole (read : Node α → Except Fault β) (outline : Outline α) : Except Fault β := do
  let value ← read outline.root
  if outline.isWhole then .ok value else .error .malformed

end Reading

end GridMachine.Document
