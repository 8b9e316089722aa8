import GridMachine.Document.Reading
import GridMachine.Yaml.Grammar

/-!
YAML texts read as documents: the pieces of the first document with its anchors, and what its leaves
stand for. Any scalar can be read as a text, whatever value it looks like.
-/

namespace GridMachine.Yaml

open Document

/-- The first document of a text. -/
structure Parsed where
  outline : Outline Leaf
  anchors : Anchors

/-- The first document of a text, as far as the text is well formed. -/
def parse (cs : List Char) : Parsed :=
  let tokens := tokens cs
  match Progress.start? tokens with
  | none => ⟨⟨[], false⟩, {}⟩
  | some progress =>
      let progress := progress.run (8 * tokens.length + 8)
      ⟨⟨progress.pieces.reverse, progress.isComplete⟩, progress.anchors⟩

/-- The plain scalars that stand for no value. -/
def nullTexts : List String := ["null", "Null", "NULL", "~"]

/-- The tag of the scalars that stand for no value. -/
def nullTag : String := "tag:yaml.org,2002:null"

/-- Whether a scalar stands for no value where one is optional. -/
def Scalar.isAbsent? (scalar : Scalar) : Option Bool :=
  match scalar.isPlain, scalar.tag with
  | false, _ => some false
  | true, none => some (scalar.text.isEmpty || nullTexts.contains scalar.text)
  | true, some tag =>
      if tag = nullTag then if nullTexts.contains scalar.text then some true else none
      else some false

/-- What the leaves of a document stand for. -/
def Parsed.reading (parsed : Parsed) : Reading Leaf where
  text?
    | .scalar scalar => some scalar.text
    | _ => none
  isAbsent?
    | .scalar scalar => scalar.isAbsent?
    | .alias _ => some false
    | .nothing => some true
  isEmptyCollection
    | .scalar scalar => scalar.isPlain && scalar.text.isEmpty
    | .alias _ => false
    | .nothing => true
  referent?
    | .alias number => parsed.anchors.node? parsed.outline.pieces number
    | _ => none

end GridMachine.Yaml
