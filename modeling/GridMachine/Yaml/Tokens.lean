import GridMachine.Yaml.Token

/-!
The tokens of a YAML text. Indentation opens and closes collections, and a scalar turns out to be a
name only when the colon after it is met, so the place where a name may begin is remembered and the
tokens that open it are put there later. A text with a fault gives the tokens before it, except
those from the first place on at which a name might still have begun.
-/

namespace GridMachine.Yaml

/-- A place where a name may have begun. -/
structure NameStart where
  /-- How many tokens stand before it. -/
  index : Nat
  place : Place
  /-- Nothing but a name can stand there. -/
  isRequired : Bool

/-- How many octets there may be between the start of a name and its colon. -/
def maxNameLength : Nat := 1024

/-- A text of which the tokens before `rest` have been read. -/
structure Lexer where
  rest : List Placed
  /-- The tokens, of which the latest stands first. -/
  tokens : List Token
  /-- The columns of the open collections that are written by indentation, the innermost first. -/
  indents : List Nat
  /-- Where a name may have begun in the innermost collection. -/
  nameStart : Option NameStart
  /-- The same for the collections around those between brackets. -/
  outerNameStarts : List (Option NameStart)
  mayStartName : Bool

namespace Lexer

def start (cs : List Placed) : Lexer := ⟨cs, [], [], none, [], true⟩

/-- Whether the text stands between the brackets of a collection. -/
def inFlow (lexer : Lexer) : Bool := !lexer.outerNameStarts.isEmpty

/-- The least column of what belongs to the innermost collection. -/
def leastColumn (lexer : Lexer) : Nat :=
  match lexer.indents with
  | [] => 0
  | column :: _ => column + 1

def push (lexer : Lexer) (token : Token) : Lexer := { lexer with tokens := token :: lexer.tokens }

/-- The lexer with a token that ends before `rest`. -/
def emit (lexer : Lexer) (token : Token) (rest : List Placed) : Lexer :=
  { lexer with tokens := token :: lexer.tokens, rest }

/-! ### Gaps between tokens -/

/-- Whether a character outside of comments stands for nothing: a space, a tab where no indentation
can be, or a byte order mark at the start of a line. -/
def isSkipped (inFlow mayStartName : Bool) (p : Placed) : Bool :=
  p.char = ' ' || (p.char = '\t' && (inFlow || !mayStartName)) ||
    (p.char = byteOrderMark && p.column = 0)

/-- The text from its next token on, and whether a name may begin there, as it may after a line
break outside of brackets. -/
def skipGap (inFlow mayStartName inComment : Bool) : List Placed → Bool × List Placed
  | [] => (mayStartName, [])
  | p :: cs =>
      if isBreak p.char then skipGap inFlow (mayStartName || !inFlow) false cs
      else if inComment || p.char = '#' then skipGap inFlow mayStartName true cs
      else if isSkipped inFlow mayStartName p then skipGap inFlow mayStartName false cs
      else (mayStartName, p :: cs)

/-- Whether the place is too far back for a name. -/
def isStale (rest : List Placed) (start : NameStart) : Bool :=
  match rest with
  | [] => false
  | p :: _ =>
      start.place.line < p.line || start.place.offset + maxNameLength < p.offset

/-- The places without those that are too far back; none of them may be required. -/
def dropStale? (rest : List Placed) : Option NameStart → Option (Option NameStart)
  | none => some none
  | some start =>
      if isStale rest start then if start.isRequired then none else some none else some (some start)

/-- Closes the collections that are indented by more than `column`. -/
def closeBeyond (column : Nat) (lexer : Lexer) : Lexer :=
  if lexer.inFlow then lexer
  else
    let closed := lexer.indents.takeWhile (column < ·)
    { lexer with
      tokens := List.replicate closed.length .blockEnd ++ lexer.tokens
      indents := lexer.indents.drop closed.length }

/-- Closes all collections that are written by indentation. -/
def closeAll (lexer : Lexer) : Lexer :=
  if lexer.inFlow then lexer
  else
    { lexer with
      tokens := List.replicate lexer.indents.length .blockEnd ++ lexer.tokens
      indents := [] }

/-- The lexer before its next token. -/
def advance? (lexer : Lexer) : Option Lexer := do
  let (mayStartName, rest) := skipGap lexer.inFlow lexer.mayStartName false lexer.rest
  let nameStart ← dropStale? rest lexer.nameStart
  let outerNameStarts ← lexer.outerNameStarts.mapM (dropStale? rest)
  let lexer := { lexer with rest, mayStartName, nameStart, outerNameStarts }
  match rest with
  | [] => some lexer
  | p :: _ => some (lexer.closeBeyond p.column)

/-! ### Names -/

/-- Forgets the place where a name may have begun, unless a name is required there. -/
def forgetName? (lexer : Lexer) : Option Lexer :=
  match lexer.nameStart with
  | some start => if start.isRequired then none else some { lexer with nameStart := none }
  | none => some lexer

/-- Remembers that a name may begin at `p`. -/
def rememberName? (lexer : Lexer) (p : Placed) : Option Lexer :=
  if lexer.mayStartName then do
    let isRequired := !lexer.inFlow && lexer.indents.head? = some p.column
    let lexer ← lexer.forgetName?
    some { lexer with nameStart := some ⟨lexer.tokens.length, p.toPlace, isRequired⟩ }
  else some lexer

/-- Whether a collection that begins at `column` is a new one. -/
def opensAt (lexer : Lexer) (column : Nat) : Bool :=
  !lexer.inFlow && lexer.indents.head?.all (· < column)

/-- Opens a collection that is written by indentation, if it is a new one. -/
def openAt (lexer : Lexer) (column : Nat) (token : Token) : Lexer :=
  if lexer.opensAt column then { lexer.push token with indents := column :: lexer.indents }
  else lexer

/-- Puts the tokens that open a name where it has begun. -/
def openName (lexer : Lexer) (start : NameStart) : Lexer :=
  let later := lexer.tokens.take (lexer.tokens.length - start.index)
  let earlier := lexer.tokens.drop (lexer.tokens.length - start.index)
  if lexer.opensAt start.place.column then
    { lexer with
      tokens := later ++ [.name, .blockRecordStart] ++ earlier
      indents := start.place.column :: lexer.indents }
  else { lexer with tokens := later ++ [.name] ++ earlier }

/-! ### Single tokens -/

/-- A directive or a marker at the start of a line, which ends all that is indented. -/
def breakOff? (lexer : Lexer) : Option Lexer := do
  let lexer ← lexer.closeAll.forgetName?
  some { lexer with mayStartName := false }

def documentMarker? (lexer : Lexer) (token : Token) : Option Lexer := do
  let lexer ← lexer.breakOff?
  some (lexer.emit token (lexer.rest.drop 3))

def openFlow? (lexer : Lexer) (p : Placed) (token : Token) (rest : List Placed) :
    Option Lexer := do
  let lexer ← lexer.rememberName? p
  some
    { lexer.emit token rest with
      nameStart := none
      outerNameStarts := lexer.nameStart :: lexer.outerNameStarts
      mayStartName := true }

def closeFlow? (lexer : Lexer) (token : Token) (rest : List Placed) : Option Lexer := do
  let lexer ← lexer.forgetName?
  let lexer := { lexer.emit token rest with mayStartName := false }
  match lexer.outerNameStarts with
  | [] => some lexer
  | nameStart :: outerNameStarts => some { lexer with nameStart, outerNameStarts }

def comma? (lexer : Lexer) (rest : List Placed) : Option Lexer := do
  let lexer ← lexer.forgetName?
  some { lexer.emit .comma rest with mayStartName := true }

/-- A hyphen; outside of brackets it opens a list, if it is the first of its column. -/
def item? (lexer : Lexer) (p : Placed) (rest : List Placed) : Option Lexer := do
  if !lexer.inFlow && !lexer.mayStartName then none
  let lexer ← (lexer.openAt p.column .blockListStart).forgetName?
  some { lexer.emit .item rest with mayStartName := true }

/-- A question mark, which announces a name of any form. -/
def name? (lexer : Lexer) (p : Placed) (rest : List Placed) : Option Lexer := do
  if !lexer.inFlow && !lexer.mayStartName then none
  let lexer ← (lexer.openAt p.column .blockRecordStart).forgetName?
  some { lexer.emit .name rest with mayStartName := !lexer.inFlow }

/-- A colon: the end of the name that has begun, or of one without a text. -/
def value? (lexer : Lexer) (p : Placed) (rest : List Placed) : Option Lexer :=
  match lexer.nameStart with
  | some start =>
      some { (lexer.openName start).emit .value rest with nameStart := none, mayStartName := false }
  | none => do
      if !lexer.inFlow && !lexer.mayStartName then none
      let lexer := lexer.openAt p.column .blockRecordStart
      some { lexer.emit .value rest with mayStartName := !lexer.inFlow }

/-- A token with a content of its own at `p`, which may be the beginning of a name. -/
def content? (lexer : Lexer) (p : Placed) (read : Option (Token × List Placed)) :
    Option Lexer := do
  let lexer ← lexer.rememberName? p
  let (token, rest) ← read
  some { lexer.emit token rest with mayStartName := false }

def plain? (lexer : Lexer) (p : Placed) : Option Lexer := do
  let lexer ← lexer.rememberName? p
  let plain ← plainFrom lexer.inFlow lexer.leastColumn .none lexer.rest
  some
    { lexer.emit (.scalar (.ofList plain.text) true) plain.rest with
      mayStartName := plain.endsInBreak }

def block? (lexer : Lexer) (isLiteral : Bool) (rest : List Placed) : Option Lexer := do
  let lexer ← lexer.forgetName?
  let (text, rest) ← Yaml.block? isLiteral lexer.leastColumn rest
  some { lexer.emit (.scalar (.ofList text) false) rest with mayStartName := true }

/-- Whether a plain scalar may begin with `c` when `rest` follows. -/
def startsPlain (inFlow : Bool) (c : Char) (rest : List Placed) : Bool :=
  if c = '-' then !startsWith isBlank rest
  else if c = '?' || c = ':' then !inFlow && !atGap rest
  else
    !(isGap c || isFlowMark c ||
      c ∈ ['#', '&', '*', '!', '|', '>', '\'', '\x22', '%', '@', '\x60'])

/-- The lexer after the token at its place, which is not at the end. -/
def token? (lexer : Lexer) (p : Placed) (rest : List Placed) : Option Lexer :=
  let scalar := Option.map fun (text, rest) => (Token.scalar (.ofList text) false, rest)
  if p.column = 0 && p.char = '%' then do
    let lexer ← lexer.breakOff?
    let (token, rest) ← directive? rest
    some (lexer.emit token rest)
  else if atMarker '-' lexer.rest then lexer.documentMarker? .documentStart
  else if atMarker '.' lexer.rest then lexer.documentMarker? .documentEnd
  else
    match p.char with
    | '[' => lexer.openFlow? p .flowListStart rest
    | '\x7b' => lexer.openFlow? p .flowRecordStart rest
    | ']' => lexer.closeFlow? .flowListEnd rest
    | '\x7d' => lexer.closeFlow? .flowRecordEnd rest
    | ',' => lexer.comma? rest
    | '*' => lexer.content? p ((anchorName? rest).map fun (name, rest) => (.alias name, rest))
    | '&' => lexer.content? p ((anchorName? rest).map fun (name, rest) => (.anchor name, rest))
    | '!' =>
        lexer.content? p ((tag? lexer.inFlow lexer.rest).map fun (tag, rest) => (.tag tag, rest))
    | '\'' => lexer.content? p (scalar (singleQuotedFrom .none rest))
    | '\x22' => lexer.content? p (scalar (doubleQuotedFrom (rest.length + 1) .none rest))
    | c =>
        if c = '-' && atGap rest then lexer.item? p rest
        else if c = '?' && (lexer.inFlow || atGap rest) then lexer.name? p rest
        else if c = ':' && (lexer.inFlow || atGap rest) then lexer.value? p rest
        else if c = '|' && !lexer.inFlow then lexer.block? true rest
        else if c = '>' && !lexer.inFlow then lexer.block? false rest
        else if startsPlain lexer.inFlow c rest then lexer.plain? p
        else none

/-! ### All tokens -/

/-- Whether a name may still turn out to begin at a place, or has to. -/
def isOpen (rest : List Placed) (start : NameStart) : Bool :=
  start.isRequired || !isStale rest start

/-- The tokens that are sure to stand where they stand, however the text goes on. -/
def settled (lexer : Lexer) : List Token :=
  let starts := (lexer.nameStart :: lexer.outerNameStarts).filterMap id
  let indices := (starts.filter (isOpen lexer.rest)).map NameStart.index
  lexer.tokens.reverse.take (indices.foldl min lexer.tokens.length)

/-- All tokens, when the text is at its end. -/
def finish? (lexer : Lexer) : Option (List Token) := do
  let lexer ← lexer.closeAll.forgetName?
  some (.streamEnd :: lexer.tokens).reverse

/-- Either all tokens or the lexer after the next one. If the text is cut, it goes on with what
cannot be read: a token has to end before the cut, and four characters are looked at where one
begins. -/
def next? (isCut : Bool) (lexer : Lexer) : Option (List Token ⊕ Lexer) := do
  let lexer ← lexer.advance?
  if isCut && (lexer.rest.drop 3).isEmpty then none
  match lexer.rest with
  | [] => .inl <$> lexer.finish?
  | p :: rest =>
      let next ← lexer.token? p rest
      if isCut && next.rest.isEmpty then none
      some (.inr next)

/-- The tokens of a text in which `fuel` tokens are left at most. A fault in a token takes back what
the gap before it has closed. -/
def run (isCut : Bool) : Nat → Lexer → List Token
  | 0, lexer => lexer.settled
  | fuel + 1, lexer =>
      match lexer.next? isCut with
      | none => lexer.settled
      | some (.inl tokens) => tokens
      | some (.inr next) => next.run isCut fuel

end Lexer

/-- The tokens of a text up to its first fault; without a fault the last one is the end. -/
def tokens (cs : List Char) : List Token :=
  match readableLength? 0 0 0 cs with
  | none => (Lexer.start (place cs)).run false (cs.length + 1)
  | some length => (Lexer.start (place (cs.take length))).run true (length + 1)

end GridMachine.Yaml
