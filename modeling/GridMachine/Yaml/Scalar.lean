import GridMachine.Text.Hex
import GridMachine.Yaml.Placed

/-!
Scalars of YAML texts: plain ones, quoted ones, and blocks of whole lines. In the first two a run of
blanks and line breaks is a gap, which is folded: a single line break reads as a space and further
ones as themselves. Every reader takes the text after the mark that opens the scalar and gives the
text of the scalar with what follows it, or nothing if the scalar is not well formed.
-/

namespace GridMachine.Yaml

/-! ### Gaps -/

/-- The blanks and line breaks that have been met since the last word. -/
inductive Gap where
  | blanks (cs : List Char)
  /-- Line breaks; the blanks around them do not count. -/
  | breaks (cs : List Char)
  /-- Line breaks after one that was escaped, which all count. -/
  | continued (cs : List Char)

namespace Gap

def none : Gap := .blanks []

def isNone : Gap → Bool
  | .blanks cs => cs.isEmpty
  | _ => false

/-- Whether a line break belongs to the gap. -/
def hasBreak : Gap → Bool
  | .blanks _ => false
  | _ => true

/-- The gap with one more blank or line break. -/
def add (gap : Gap) (c : Char) : Gap :=
  match gap with
  | .blanks cs => if isBreak c then .breaks [c] else .blanks (cs ++ [c])
  | .breaks cs => if isBreak c then .breaks (cs ++ [c]) else gap
  | .continued cs => if isBreak c then .continued (cs ++ [c]) else gap

/-- What the gap reads as. -/
def folded : Gap → List Char
  | .breaks ['\n'] => [' ']
  | .breaks ('\n' :: cs) => cs
  | .blanks cs | .breaks cs | .continued cs => cs

end Gap

/-! ### Plain scalars -/

/-- The marks of collections that are written between brackets. -/
def isFlowMark (c : Char) : Bool := c ∈ [',', '[', ']', '\x7b', '\x7d']

/-- A plain scalar. -/
structure Plain where
  text : List Char
  /-- Whether the reader went on to a later line after the last word. -/
  endsInBreak : Bool
  rest : List Placed

/-- The plain scalar whose last word was followed by `gap`, in a collection between brackets or else
in lines indented by `indent` at least. -/
def plainFrom (inFlow : Bool) (indent : Nat) (gap : Gap) : List Placed → Option Plain
  | [] => some ⟨[], gap.hasBreak, []⟩
  | p :: cs =>
      let stop : Plain := ⟨[], gap.hasBreak, p :: cs⟩
      if isGap p.char then
        if gap.hasBreak && p.char = '\t' && p.column < indent then none
        else plainFrom inFlow indent (gap.add p.char) cs
      else if !gap.isNone && (p.char = '#' || (!inFlow && p.column < indent)) then some stop
      else if !gap.isNone && atDocumentMarker (p :: cs) then some stop
      else if inFlow && p.char = ':' && startsWith (fun c => isFlowMark c || c = '?') cs then none
      else if (p.char = ':' && atGap cs) || (inFlow && isFlowMark p.char) then some stop
      else
        (plainFrom inFlow indent .none cs).map fun plain =>
          { plain with text := gap.folded ++ p.char :: plain.text }

/-! ### Quoted scalars -/

/-- A scalar between single quotes, in which a quote is written twice. -/
def singleQuotedFrom (gap : Gap) : List Placed → Option (List Char × List Placed)
  | [] => none
  | p :: cs =>
      if isGap p.char then singleQuotedFrom (gap.add p.char) cs
      else if atDocumentMarker (p :: cs) then none
      else
        let read (c : Char) (found : Option (List Char × List Placed)) :=
          found.map fun (text, rest) => (gap.folded ++ c :: text, rest)
        if p.char = '\'' then
          match cs with
          | q :: cs' =>
              if q.char = '\'' then read q.char (singleQuotedFrom .none cs')
              else some (gap.folded, cs)
          | [] => some (gap.folded, cs)
        else read p.char (singleQuotedFrom .none cs)

/-- The character that a backslash and a letter stand for. -/
def simpleEscape? : Char → Option Char
  | '0' => some '\x00'
  | 'a' => some '\x07'
  | 'b' => some '\x08'
  | 't' | '\t' => some '\t'
  | 'n' => some '\n'
  | 'v' => some '\x0b'
  | 'f' => some '\x0c'
  | 'r' => some '\r'
  | 'e' => some '\x1b'
  | ' ' => some ' '
  | '\x22' => some '\x22'
  | '/' => some '/'
  | '\\' => some '\\'
  | 'N' => some nextLine
  | '_' => some '\u00a0'
  | 'L' => some lineSeparator
  | 'P' => some paragraphSeparator
  | _ => none

/-- How many hexadecimal digits follow a backslash and a letter. -/
def codeLength : Char → Nat
  | 'x' => 2
  | 'u' => 4
  | 'U' => 8
  | _ => 0

/-- The character with the code that the text begins with. -/
def codedChar? (length : Nat) (cs : List Placed) : Option Char := do
  let digits := (cs.take length).map Placed.char
  if digits.length < length then none
  let code ← Text.hexValue? digits
  if h : code.isValidChar then some (Char.ofNatAux code h) else none

/-- A scalar between double quotes, in which a backslash escapes; `fuel` bounds its length. -/
def doubleQuotedFrom : Nat → Gap → List Placed → Option (List Char × List Placed)
  | 0, _, _ => none
  | _, _, [] => none
  | fuel + 1, gap, p :: cs =>
      let read (c : Char) (rest : List Placed) :=
        (doubleQuotedFrom fuel .none rest).map fun (text, rest) => (gap.folded ++ c :: text, rest)
      if isGap p.char then doubleQuotedFrom fuel (gap.add p.char) cs
      else if atDocumentMarker (p :: cs) then none
      else if p.char = '\x22' then some (gap.folded, cs)
      else if p.char = '\\' then
        match cs with
        | [] => none
        | q :: cs =>
            if isBreak q.char then
              (doubleQuotedFrom fuel (.continued []) cs).map fun (text, rest) =>
                (gap.folded ++ text, rest)
            else
              match codeLength q.char with
              | 0 => (simpleEscape? q.char).bind fun c => read c cs
              | length => (codedChar? length cs).bind fun c => read c (cs.drop length)
      else read p.char cs

/-! ### Blocks of lines -/

/-- What becomes of the line breaks at the end of a block. -/
inductive Chomping where
  | strip
  | clip
  | keep

/-- The header of a block: how its end is treated and, if it says so, how far it is indented. -/
structure BlockHeader where
  chomping : Chomping := .clip
  indent : Option Nat := none

def chomping? : Char → Option Chomping
  | '-' => some .strip
  | '+' => some .keep
  | _ => none

/-- The header of a block, in which the two marks may come in either order. -/
def blockHeader? (cs : List Placed) : Option (BlockHeader × List Placed) :=
  match cs with
  | p :: q :: rest =>
      match chomping? p.char, chomping? q.char with
      | some chomping, _ =>
          if isDigit q.char then
            if q.char = '0' then none else some (⟨chomping, digit q.char⟩, rest)
          else some (⟨chomping, none⟩, q :: rest)
      | none, second =>
          if isDigit p.char then
            if p.char = '0' then none
            else
              match second with
              | some chomping => some (⟨chomping, digit p.char⟩, rest)
              | none => some (⟨.clip, digit p.char⟩, q :: rest)
          else some ({}, cs)
  | [p] =>
      match chomping? p.char with
      | some chomping => some (⟨chomping, none⟩, [])
      | none =>
          if isDigit p.char then if p.char = '0' then none else some (⟨.clip, digit p.char⟩, [])
          else some ({}, cs)
  | [] => some ({}, [])
where
  digit (c : Char) : Nat := c.toNat - 48

/-- The empty lines before a line of a block, the widest indentation met (`widest` so far), and what
follows. Without an `indent` all spaces count as indentation. -/
def emptyLines (indent : Option Nat) (widest : Nat) :
    List Placed → Option (List Char × Nat × List Placed)
  | [] => some ([], widest, [])
  | p :: cs =>
      let isIndentation := indent.all (p.column < ·)
      if isIndentation && p.char = ' ' then emptyLines indent widest cs
      else if isIndentation && p.char = '\t' then none
      else
        let widest := max widest p.column
        if isBreak p.char then
          (emptyLines indent widest cs).map fun (breaks, widest, rest) =>
            (p.char :: breaks, widest, rest)
        else some ([], widest, p :: cs)

/-- The lines of a block as far as they have been read. -/
structure Block where
  text : List Char := []
  /-- The line break after the last line. -/
  lastBreak : List Char := []
  /-- The empty lines after it. -/
  breaks : List Char
  /-- Whether the last line began with a blank. -/
  isIndented : Bool := false

namespace Block

/-- What joins the next line to the block: in a folded block, two lines of words are joined by a
space. -/
def joint (block : Block) (isLiteral nextIsIndented : Bool) : List Char :=
  if !isLiteral && block.lastBreak = ['\n'] && !block.isIndented && !nextIsIndented then
    if block.breaks.isEmpty then [' '] else block.breaks
  else block.lastBreak ++ block.breaks

/-- The block with all of its lines, of which there are `fuel` at most, and what follows it. -/
def readLines (isLiteral : Bool) (indent : Nat) : Nat → Block → List Placed →
    Option (Block × List Placed)
  | fuel + 1, block, p :: cs =>
      if p.column = indent then do
        let isIndented := isBlank p.char
        let (line, rest) := spanClass (!isBreak ·) (p :: cs)
        let lastBreak := (rest.take 1).map Placed.char
        let (breaks, _, rest) ← emptyLines (some indent) 0 (rest.drop 1)
        readLines isLiteral indent fuel
          { text := block.text ++ block.joint isLiteral isIndented ++ line
            lastBreak, breaks, isIndented }
          rest
      else some (block, p :: cs)
  | _, block, cs => some (block, cs)

/-- The text of a block that is read to its end. -/
def chomped (block : Block) : Chomping → List Char
  | .strip => block.text
  | .clip => block.text ++ block.lastBreak
  | .keep => block.text ++ block.lastBreak ++ block.breaks

end Block

/-- A block of lines, in a collection that is indented by one less than `least`. -/
def block? (isLiteral : Bool) (least : Nat) (cs : List Placed) :
    Option (List Char × List Placed) := do
  let (header, cs) ← blockHeader? cs
  let cs ← afterBareLine? cs
  let indent := header.indent.map fun width => least - 1 + width
  let (breaks, widest, cs) ← emptyLines indent 0 cs
  let indent := indent.getD (max widest (max least 1))
  let (block, rest) ← Block.readLines isLiteral indent cs.length { breaks } cs
  some (block.chomped header.chomping, rest)

end GridMachine.Yaml
