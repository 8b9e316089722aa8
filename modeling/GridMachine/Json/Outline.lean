import GridMachine.Document.Reading
import GridMachine.Json.Token

/-!
The structure of JSON texts: the pieces that their tokens spell, up to the first token that cannot
stand where it stands.
-/

namespace GridMachine.Json

open Document

/-- What may come next in a JSON text. -/
inductive Place where
  | value
  /-- A value, or the end of the array that has just begun. -/
  | firstItem
  | name
  /-- A name, or the end of the object that has just begun. -/
  | firstName
  | colon
  /-- After a value: a comma, or the end of what the value stands in. -/
  | afterValue
deriving DecidableEq

/-- A place in a text, with the collections around it, innermost first: `true` for an object. -/
structure Position where
  place : Place
  around : List Bool

namespace Position

def start : Position := ⟨.value, []⟩

/-- Nothing more may come. -/
def isEnd (position : Position) : Bool :=
  position.place = .afterValue && position.around.isEmpty

/-- A token where a value may stand. -/
def startValue? (around : List Bool) : Token → Option (Option (Piece Leaf) × Position)
  | .leaf value => some (some (.leaf value), ⟨.afterValue, around⟩)
  | .beginArray => some (some .openList, ⟨.firstItem, false :: around⟩)
  | .beginObject => some (some .openRecord, ⟨.firstName, true :: around⟩)
  | _ => none

/-- A token where the name of a member may stand. -/
def startName? (around : List Bool) : Token → Option (Option (Piece Leaf) × Position)
  | .leaf (.text name) => some (some (.leaf (.text name)), ⟨.colon, around⟩)
  | .leaf .brokenText => some (some (.leaf .brokenText), ⟨.colon, around⟩)
  | _ => none

/-- The piece a token gives and the position after it; `none` if the token may not stand here. -/
def step? (position : Position) (token : Token) : Option (Option (Piece Leaf) × Position) :=
  match position.place, position.around, token with
  | .firstItem, false :: around, .endArray => some (some .closeList, ⟨.afterValue, around⟩)
  | .firstName, true :: around, .endObject => some (some .closeRecord, ⟨.afterValue, around⟩)
  | .afterValue, false :: around, .endArray => some (some .closeList, ⟨.afterValue, around⟩)
  | .afterValue, true :: around, .endObject => some (some .closeRecord, ⟨.afterValue, around⟩)
  | .afterValue, false :: around, .comma => some (none, ⟨.value, false :: around⟩)
  | .afterValue, true :: around, .comma => some (none, ⟨.name, true :: around⟩)
  | .afterValue, _, _ => none
  | .colon, around, .colon => some (none, ⟨.value, around⟩)
  | .colon, _, _ => none
  | .value, around, token => startValue? around token
  | .firstItem, around, token => startValue? around token
  | .name, around, token => startName? around token
  | .firstName, around, token => startName? around token

/-- The pieces that the tokens spell from this position on, and whether they end a document. -/
def pieces (position : Position) : List Token → List (Piece Leaf) × Bool
  | [] => ([], position.isEnd)
  | token :: tokens =>
      match position.step? token with
      | none => ([], false)
      | some (piece, next) =>
          let (rest, isWhole) := next.pieces tokens
          (piece.toList ++ rest, isWhole)

end Position

/-- The outline of a JSON text. -/
def outline (cs : List Char) : Outline Leaf :=
  let (tokens, reachesEnd) := tokens cs
  let (pieces, isWhole) := Position.start.pieces tokens
  ⟨pieces, isWhole && reachesEnd⟩

/-- JSON leaves: only a text is read as a text, and `null` stands for no value. -/
def reading : Reading Leaf where
  text?
    | .text value => some value
    | _ => none
  isAbsent?
    | .null => some true
    | _ => some false
  isEmptyCollection _ := false
  referent? _ := none

end GridMachine.Json
