import GridMachine.Manifest.Basic
import GridMachine.Text.Blank
import GridMachine.Text.Split

/-!
Cells of a grid. A cell holds the transitions of one state and event: nothing, one transition
written bare, or transitions in brackets that are tried in their order. A transition is written as
one to three tokens between slashes: `TARGET`, `EVALUATOR/TARGET`, `TARGET/ACTION` or
`EVALUATOR/TARGET/ACTION`; in brackets it has at least two. Which of the forms two tokens have is a
matter of the manifest, so a cell is first split into groups of tokens and then classified.
-/

namespace GridMachine

/-- A transition as a cell describes it, with the names of its components. -/
structure CellTransition where
  evaluator : Option String
  target : String
  action : Option String
deriving DecidableEq

/-- What is wrong with a cell whose brackets balance. -/
inductive CellFlaw where
  | emptyToken
  | tokenCount (count : Nat)
  | textOutsideBrackets
  | emptyBrackets
  | tooFewInBrackets
  | nestedBrackets
deriving DecidableEq

inductive CellError where
  | missingOpeningBrace (cell : String)
  | missingBrace (cell : String)
  | malformed (cell : String) (flaw : CellFlaw)
  | unresolvedTokens (tokens : List String)
  | unknownEvaluator (name : String)
  | unknownAction (name : String)
deriving DecidableEq

namespace CellFlaw

def message : CellFlaw → String
  | .emptyToken => "empty token"
  | .tokenCount count => "expected 1 to 3 tokens, found " ++ toString count
  | .textOutsideBrackets => "text outside of brackets"
  | .emptyBrackets => "empty brackets"
  | .tooFewInBrackets => "bracketed transition needs two or three tokens"
  | .nestedBrackets => "nested brackets"

end CellFlaw

namespace CellError

def message : CellError → String
  | .missingOpeningBrace cell =>
      "Transition '" ++ cell ++ "' appears to be invalid as it is missing an opening brace"
  | .missingBrace cell =>
      "Transition '" ++ cell ++
        "' appears to be invalid as it is missing an opening brace or closing brace"
  | .malformed cell flaw => "Transition '" ++ cell ++ "' appears to be invalid: " ++ flaw.message
  | .unresolvedTokens tokens =>
      "Failed to find evaluators, states or actions for tokens [" ++
        Text.joinWith ", " tokens ++ "]"
  | .unknownEvaluator name =>
      "Unable to find reference to transition evaluator '" ++ name ++ "' in manifest file"
  | .unknownAction name =>
      "Unable to find reference to transition action '" ++ name ++ "' in manifest file"

def code : CellError → String
  | .missingOpeningBrace _ | .missingBrace _ | .malformed _ _ => "FORMAT"
  | .unresolvedTokens _ | .unknownEvaluator _ | .unknownAction _ => "REFERENCE"

end CellError

namespace Cell

/-! ### Splitting a cell into groups of tokens -/

/-- The tokens between the slashes, without the blanks around them. -/
def splitTokens (cs : List Char) : Except CellFlaw (List (List Char)) :=
  let tokens := (Text.splitOn '/' cs).map Text.trim
  if tokens.any List.isEmpty then .error .emptyToken
  else if 3 < tokens.length then .error (.tokenCount tokens.length)
  else .ok tokens

/-- The tokens of a group, given what stands between its brackets. -/
def groupTokens (content : List Char) : Except CellFlaw (List (List Char)) := do
  if (Text.trim content).isEmpty then throw .emptyBrackets
  let tokens ← splitTokens content
  if tokens.length < 2 then throw .tooFewInBrackets
  return tokens

/-- Why the groups of a bracketed cell cannot be read. -/
inductive GroupFault where
  | flaw (flaw : CellFlaw)
  /-- The cell ends within a group. -/
  | unclosed
deriving DecidableEq

/-- The groups of a text in which brackets stand side by side, read from outside of brackets
(`none`) or from within brackets that have held `content` so far. -/
def groups : Option (List Char) → List Char → Except GroupFault (List (List (List Char)))
  | none, [] => .ok []
  | some _, [] => .error .unclosed
  | none, c :: cs =>
      if c = '[' then groups (some []) cs
      else if Text.isBlank c then groups none cs
      else .error (.flaw .textOutsideBrackets)
  | some content, c :: cs =>
      if c = ']' then
        match groupTokens content with
        | .error flaw => .error (.flaw flaw)
        | .ok tokens => (tokens :: ·) <$> groups none cs
      else if c = '[' then .error (.flaw .nestedBrackets)
      else groups (some (content ++ [c])) cs

/-- The groups of tokens of a cell, one per transition. -/
def tokenize (cell : String) : Except CellError (List (List String)) :=
  let cs := Text.trim cell.toList
  let text := String.ofList cs
  let opening := cs.count '['
  let closing := cs.count ']'
  if cs.isEmpty then .ok []
  else if opening = 0 && closing = 0 then
    match splitTokens cs with
    | .ok tokens => .ok [tokens.map String.ofList]
    | .error flaw => .error (.malformed text flaw)
  else if opening = 0 then .error (.missingOpeningBrace text)
  else if opening ≠ closing then .error (.missingBrace text)
  else
    match groups none cs with
    | .ok tokens => .ok (tokens.map (·.map String.ofList))
    | .error (.flaw flaw) => .error (.malformed text flaw)
    | .error .unclosed => .error (.missingBrace text)

/-! ### Classifying the tokens -/

/-- The transition that a group of tokens describes. Of two tokens the first is taken as an
evaluator if it is one, and else the second has to be an action. -/
def classify (manifest : Manifest) (tokens : List String) : Except CellError CellTransition :=
  match tokens with
  | [target] => .ok ⟨none, target, none⟩
  | [first, second] =>
      if manifest.hasEvaluator first then .ok ⟨some first, second, none⟩
      else if manifest.hasAction second then .ok ⟨none, first, some second⟩
      else .error (.unresolvedTokens tokens)
  | [evaluator, target, action] =>
      if !manifest.hasEvaluator evaluator then .error (.unknownEvaluator evaluator)
      else if !manifest.hasAction action then .error (.unknownAction action)
      else .ok ⟨some evaluator, target, some action⟩
  | _ => .error (.malformed (Text.joinWith "/" tokens) (.tokenCount tokens.length))

/-- The transitions of a cell. -/
def parse (manifest : Manifest) (cell : String) : Except CellError (List CellTransition) := do
  let groups ← tokenize cell
  groups.mapM (classify manifest)

/-! ### Writing cells -/

/-- The tokens that describe a transition. -/
def tokensOf (transition : CellTransition) : List String :=
  transition.evaluator.toList ++ [transition.target] ++ transition.action.toList

/-- A group of tokens between slashes. -/
def renderGroup (tokens : List String) : String := Text.joinWith "/" tokens

/-- The cell that holds the groups: one group is written bare, more are written in brackets. -/
def renderGroups : List (List String) → String
  | [tokens] => renderGroup tokens
  | groups => String.join (groups.map fun tokens => "[" ++ renderGroup tokens ++ "]")

/-- The cell that holds the transitions. -/
def render (transitions : List CellTransition) : String :=
  renderGroups (transitions.map tokensOf)

end Cell

end GridMachine
