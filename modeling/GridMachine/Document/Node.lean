/-!
Documents as trees. A reader of a notation gives the pieces of a document in the order of the text
and says whether the text was well formed to its end; the pieces assemble to a tree in which
`Node.cut` marks where a malformed text stopped, so that everything before the fault can still be
looked at.
-/

namespace GridMachine.Document

/-- One piece of a document, in the order in which the text gives them. -/
inductive Piece (α : Type) where
  | leaf (value : α)
  | openList
  | closeList
  | openRecord
  | closeRecord
deriving DecidableEq

/-- A tree whose leaves are in `α`. The items of a record are its names and values in turn. -/
inductive Node (α : Type) where
  | leaf (value : α)
  | list (items : List (Node α))
  | record (items : List (Node α))
  | cut

/-- A collection that has been opened and not yet closed; its latest item stands first. -/
structure Frame (α : Type) where
  isRecord : Bool
  items : List (Node α)

namespace Frame

variable {α : Type}

def push (frame : Frame α) (node : Node α) : Frame α :=
  { frame with items := node :: frame.items }

def close (frame : Frame α) : Node α :=
  if frame.isRecord then .record frame.items.reverse else .list frame.items.reverse

end Frame

namespace Node

variable {α : Type}

/-- The outermost collection when the text stops inside `node`. -/
def cutOff (node : Node α) : List (Frame α) → Node α
  | [] => node
  | frame :: frames => cutOff ((frame.push node).push .cut).close frames

/-- The first whole node of the pieces, given the collections that are still open. -/
def assemble : List (Frame α) → List (Piece α) → Node α
  | [], [] => .cut
  | frame :: frames, [] => cutOff (frame.push .cut).close frames
  | [], .leaf value :: _ => .leaf value
  | frame :: frames, .leaf value :: pieces => assemble (frame.push (.leaf value) :: frames) pieces
  | frames, .openList :: pieces => assemble (⟨false, []⟩ :: frames) pieces
  | frames, .openRecord :: pieces => assemble (⟨true, []⟩ :: frames) pieces
  | [], .closeList :: _ => .cut
  | [], .closeRecord :: _ => .cut
  | [frame], .closeList :: _ => frame.close
  | [frame], .closeRecord :: _ => frame.close
  | inner :: outer :: frames, .closeList :: pieces =>
      assemble (outer.push inner.close :: frames) pieces
  | inner :: outer :: frames, .closeRecord :: pieces =>
      assemble (outer.push inner.close :: frames) pieces

/-- The node with which the pieces begin. -/
def ofPieces (pieces : List (Piece α)) : Node α := assemble [] pieces

end Node

/-- The pieces of a text, and whether the text holds exactly one node and no fault. -/
structure Outline (α : Type) where
  pieces : List (Piece α)
  isWhole : Bool

/-- The node of an outline. -/
def Outline.root {α : Type} (outline : Outline α) : Node α := .ofPieces outline.pieces

end GridMachine.Document
