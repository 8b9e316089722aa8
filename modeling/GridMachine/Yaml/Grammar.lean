import GridMachine.Document.Node
import GridMachine.Yaml.Tokens

/-!
The structure of YAML texts. What is still expected of a document is a stack of goals; each step
meets the topmost goal by what the next tokens are, which gives pieces of the document and new
goals. A missing name, value or item reads as an empty scalar.
-/

namespace GridMachine.Yaml

open Document

/-- A scalar of a document. -/
structure Scalar where
  text : String
  isPlain : Bool
  tag : Option String

inductive Leaf where
  | scalar (scalar : Scalar)
  /-- The node that the anchor of a number marks. -/
  | alias (number : Nat)
  /-- A text without any document. -/
  | nothing

/-! ### Anchors -/

/-- The anchors of a document. The number of an anchor is how many names were in use when it was
set; where two anchors have one number, the later one counts. -/
structure Anchors where
  numbers : List (String × Nat) := []
  /-- Before which piece the anchor of a number stands, the latest anchor first. -/
  places : List (Nat × Nat) := []

namespace Anchors

def number? (anchors : Anchors) (name : String) : Option Nat := anchors.numbers.lookup name

/-- Sets an anchor before the piece at `place`. -/
def set (anchors : Anchors) (name : String) (place : Nat) : Anchors :=
  let number := anchors.numbers.length
  ⟨(name, number) :: anchors.numbers.filter (·.1 ≠ name), (number, place) :: anchors.places⟩

/-- The node that the anchor of a number marks. -/
def node? (anchors : Anchors) (pieces : List (Piece Leaf)) (number : Nat) : Option (Node Leaf) :=
  (anchors.places.lookup number).map fun place => .ofPieces (pieces.drop place)

end Anchors

/-! ### Goals -/

/-- What is expected next. -/
inductive Goal where
  /-- A node, which outside of brackets may be written by indentation; as the value of a name its
  items need not be indented. -/
  | node (isBlock mayBeUnindented : Bool)
  | blockItems
  | unindentedItems
  | blockNames
  | blockValue
  | flowItems (isFirst : Bool)
  /-- The name of a record that is an item of a list and written without brackets. -/
  | pairName
  | pairValue
  | pairEnd
  | flowNames (isFirst : Bool)
  | flowValue
  /-- The value of a name without a colon. -/
  | noValue

/-- How far a document has been read. -/
structure Progress where
  goals : List Goal
  tokens : List Token
  /-- What the handles of tags stand for. -/
  handles : List (String × String)
  anchors : Anchors := {}
  /-- The pieces, of which the latest stands first. -/
  pieces : List (Piece Leaf) := []

namespace Progress

def push (progress : Progress) (piece : Piece Leaf) : Progress :=
  { progress with pieces := piece :: progress.pieces }

/-- The progress when `goals` are what is expected before the next token. -/
def expect (progress : Progress) (goals : List Goal) (tokens : List Token) : Progress :=
  { progress with goals := goals ++ progress.goals, tokens }

/-- An empty scalar in the place of a node. -/
def pushEmpty (progress : Progress) : Progress := progress.push (.leaf (.scalar ⟨"", true, none⟩))

/-- A node before the other goals, unless the next token is in `ends`, which stands for an empty
scalar. -/
def nodeOrEmpty? (progress : Progress) (ends : Token → Bool) (node : Goal) (goals : List Goal) :
    List Token → Option Progress
  | [] => none
  | token :: tokens =>
      if ends token then some (progress.pushEmpty.expect goals (token :: tokens))
      else some (progress.expect (node :: goals) (token :: tokens))

/-! ### Nodes -/

/-- The tag that a token stands for. -/
def tagText? (progress : Progress) (tag : Tag) : Option String :=
  if tag.handle = "" then some tag.suffix
  else (progress.handles.lookup tag.handle).map (· ++ tag.suffix)

/-- The anchor and the tag before a node, in either order. -/
def properties : List Token → Option String × Option Tag × List Token
  | .anchor name :: .tag tag :: tokens => (some name, some tag, tokens)
  | .tag tag :: .anchor name :: tokens => (some name, some tag, tokens)
  | .anchor name :: tokens => (some name, none, tokens)
  | .tag tag :: tokens => (none, some tag, tokens)
  | tokens => (none, none, tokens)

def isItem : Token → Bool
  | .item => true
  | _ => false

/-- The node itself, once its anchor is set. -/
def content? (progress : Progress) (isBlock mayBeUnindented hasProperties : Bool)
    (tag : Option String) : List Token → Option Progress
  | [] => none
  | token :: tokens =>
      if mayBeUnindented && isItem token then
        some ((progress.push .openList).expect [.unindentedItems] (token :: tokens))
      else
        match token, isBlock with
        | .scalar text isPlain, _ =>
            some ((progress.push (.leaf (.scalar ⟨text, isPlain, tag⟩))).expect [] tokens)
        | .flowListStart, _ => some ((progress.push .openList).expect [.flowItems true] tokens)
        | .flowRecordStart, _ => some ((progress.push .openRecord).expect [.flowNames true] tokens)
        | .blockListStart, true => some ((progress.push .openList).expect [.blockItems] tokens)
        | .blockRecordStart, true => some ((progress.push .openRecord).expect [.blockNames] tokens)
        | _, _ =>
            if hasProperties then
              some
                ((progress.push (.leaf (.scalar ⟨"", true, tag⟩))).expect [] (token :: tokens))
            else none

def node? (progress : Progress) (isBlock mayBeUnindented : Bool) : Option Progress :=
  match progress.tokens with
  | .alias name :: tokens => do
      let number ← progress.anchors.number? name
      some ((progress.push (.leaf (.alias number))).expect [] tokens)
  | tokens =>
      match properties tokens with
      | (anchor, tag, tokens) => do
          let tagText ←
            match tag with
            | none => some none
            | some tag => some <$> progress.tagText? tag
          let marked :=
            match anchor with
            | none => progress
            | some name =>
                { progress with anchors := progress.anchors.set name progress.pieces.length }
          marked.content? isBlock mayBeUnindented (anchor.isSome || tag.isSome) tagText tokens

/-! ### Collections written by indentation -/

def endsBlockItem : Token → Bool
  | .item | .blockEnd => true
  | _ => false

def endsUnindentedItem : Token → Bool
  | .item | .name | .value | .blockEnd => true
  | _ => false

def endsBlockNode : Token → Bool
  | .name | .value | .blockEnd => true
  | _ => false

def blockItems? (progress : Progress) : Option Progress :=
  match progress.tokens with
  | .item :: tokens =>
      progress.nodeOrEmpty? endsBlockItem (.node true false) [.blockItems] tokens
  | .blockEnd :: tokens => some ((progress.push .closeList).expect [] tokens)
  | _ => none

def unindentedItems? (progress : Progress) : Option Progress :=
  match progress.tokens with
  | .item :: tokens =>
      progress.nodeOrEmpty? endsUnindentedItem (.node true false) [.unindentedItems] tokens
  | [] => none
  | tokens => some ((progress.push .closeList).expect [] tokens)

def blockNames? (progress : Progress) : Option Progress :=
  match progress.tokens with
  | .name :: tokens => progress.nodeOrEmpty? endsBlockNode (.node true true) [.blockValue] tokens
  | .blockEnd :: tokens => some ((progress.push .closeRecord).expect [] tokens)
  | _ => none

def blockValue? (progress : Progress) : Option Progress :=
  match progress.tokens with
  | .value :: tokens => progress.nodeOrEmpty? endsBlockNode (.node true true) [.blockNames] tokens
  | [] => none
  | tokens => some (progress.pushEmpty.expect [.blockNames] tokens)

/-! ### Collections between brackets -/

/-- The tokens after the comma that parts an item from the one before it. -/
def afterComma? (isFirst : Bool) (tokens : List Token) : Option (List Token) :=
  match isFirst, tokens with
  | true, tokens => some tokens
  | false, .comma :: tokens => some tokens
  | false, _ => none

def endsPairName : Token → Bool
  | .value | .comma | .flowListEnd => true
  | _ => false

def endsFlowItem : Token → Bool
  | .comma | .flowListEnd => true
  | _ => false

def endsFlowName : Token → Bool
  | .value | .comma | .flowRecordEnd => true
  | _ => false

def endsFlowValue : Token → Bool
  | .comma | .flowRecordEnd => true
  | _ => false

def flowItems? (progress : Progress) (isFirst : Bool) : Option Progress :=
  match progress.tokens with
  | .flowListEnd :: tokens => some ((progress.push .closeList).expect [] tokens)
  | tokens => do
      let tokens ← afterComma? isFirst tokens
      match tokens with
      | [] => none
      | .flowListEnd :: tokens => some ((progress.push .closeList).expect [] tokens)
      | .name :: tokens =>
          some ((progress.push .openRecord).expect [.pairName, .flowItems false] tokens)
      | tokens => some (progress.expect [.node false false, .flowItems false] tokens)

/-- The name of a record without brackets. Where it is missing, the token after it is passed over,
so that a colon does not count. -/
def pairName? (progress : Progress) : Option Progress :=
  match progress.tokens with
  | [] => none
  | token :: tokens =>
      if endsPairName token then some (progress.pushEmpty.expect [.pairValue] tokens)
      else some (progress.expect [.node false false, .pairValue] (token :: tokens))

def pairValue? (progress : Progress) : Option Progress :=
  match progress.tokens with
  | .value :: tokens => progress.nodeOrEmpty? endsFlowItem (.node false false) [.pairEnd] tokens
  | [] => none
  | tokens => some (progress.pushEmpty.expect [.pairEnd] tokens)

def pairEnd? (progress : Progress) : Option Progress :=
  if progress.tokens.isEmpty then none else some (progress.push .closeRecord)

def flowNames? (progress : Progress) (isFirst : Bool) : Option Progress :=
  match progress.tokens with
  | .flowRecordEnd :: tokens => some ((progress.push .closeRecord).expect [] tokens)
  | tokens => do
      let tokens ← afterComma? isFirst tokens
      match tokens with
      | [] => none
      | .flowRecordEnd :: tokens => some ((progress.push .closeRecord).expect [] tokens)
      | .name :: tokens =>
          progress.nodeOrEmpty? endsFlowName (.node false false)
            [.flowValue, .flowNames false] tokens
      | tokens => some (progress.expect [.node false false, .noValue, .flowNames false] tokens)

def flowValue? (progress : Progress) : Option Progress :=
  match progress.tokens with
  | .value :: tokens => progress.nodeOrEmpty? endsFlowValue (.node false false) [] tokens
  | [] => none
  | tokens => some (progress.pushEmpty.expect [] tokens)

def noValue? (progress : Progress) : Option Progress :=
  if progress.tokens.isEmpty then none else some progress.pushEmpty

/-! ### Documents -/

/-- The progress when the topmost goal is met; `none` if the tokens do not allow it. -/
def step? (progress : Progress) (goal : Goal) : Option Progress :=
  match goal with
  | .node isBlock mayBeUnindented => progress.node? isBlock mayBeUnindented
  | .blockItems => progress.blockItems?
  | .unindentedItems => progress.unindentedItems?
  | .blockNames => progress.blockNames?
  | .blockValue => progress.blockValue?
  | .flowItems isFirst => progress.flowItems? isFirst
  | .pairName => progress.pairName?
  | .pairValue => progress.pairValue?
  | .pairEnd => progress.pairEnd?
  | .flowNames isFirst => progress.flowNames? isFirst
  | .flowValue => progress.flowValue?
  | .noValue => progress.noValue?

/-- Meets goals, `fuel` at most, until none is left or one cannot be met. -/
def run : Nat → Progress → Progress
  | 0, progress => progress
  | fuel + 1, progress =>
      match progress.goals with
      | [] => progress
      | goal :: goals =>
          match { progress with goals }.step? goal with
          | none => progress
          | some next => next.run fuel

end Progress

/-- The directives of a document as far as they have been read. -/
structure Directives where
  hasVersion : Bool := false
  handles : List (String × String) := []

/-- The handles that need no directive. -/
def standardHandles : List (String × String) := [("!", "!"), ("!!", "tag:yaml.org,2002:")]

/-- The directives with which the tokens begin, each given once, and the tokens after them. -/
def Directives.read? (directives : Directives) : List Token → Option (Directives × List Token)
  | .versionDirective major minor :: tokens =>
      if directives.hasVersion || major ≠ 1 || !(minor = 1 || minor = 2) then none
      else { directives with hasVersion := true }.read? tokens
  | .tagDirective handle lead :: tokens =>
      if directives.handles.any (·.1 = handle) then none
      else { directives with handles := (handle, lead) :: directives.handles }.read? tokens
  | tokens => some (directives, tokens)

/-- Whether a document has no content when this token follows its start. -/
def endsDocument : Token → Bool
  | .versionDirective _ _ | .tagDirective _ _ | .documentStart | .documentEnd | .streamEnd => true
  | _ => false

/-- The document with which the tokens begin, before any of its content. -/
def Progress.start? (tokens : List Token) : Option Progress := do
  match tokens with
  | [] => none
  | .versionDirective _ _ :: _ | .tagDirective _ _ :: _ | .documentStart :: _ =>
      let (directives, tokens) ← Directives.read? {} tokens
      match tokens with
      | .documentStart :: tokens =>
          let progress : Progress := ⟨[], tokens, directives.handles ++ standardHandles, {}, []⟩
          progress.nodeOrEmpty? endsDocument (.node true false) [] tokens
      | _ => none
  | .streamEnd :: _ => some ⟨[], tokens, [], {}, [.leaf .nothing]⟩
  | _ => some ⟨[.node true false], tokens, standardHandles, {}, []⟩

/-- Whether the document is complete and the text ends after it. -/
def Progress.isComplete (progress : Progress) : Bool :=
  progress.goals.isEmpty &&
    match progress.tokens.dropWhile (fun token => token matches .documentEnd) with
    | [.streamEnd] => true
    | _ => false

end GridMachine.Yaml
