import GridMachine.Yaml.Scalar

/-!
Tokens of YAML texts, and the readers of the tokens that have a content of their own: names of
anchors, tags, and directives.
-/

namespace GridMachine.Yaml

/-- A tag as written: a handle that stands for the beginning of the tag, and its end. -/
structure Tag where
  handle : String
  suffix : String

inductive Token where
  | versionDirective (major minor : Nat)
  /-- What the handle stands for in the tags of the document. -/
  | tagDirective (handle lead : String)
  | documentStart
  | documentEnd
  | streamEnd
  | blockListStart
  | blockRecordStart
  | blockEnd
  | flowListStart
  | flowListEnd
  | flowRecordStart
  | flowRecordEnd
  /-- A hyphen before an item. -/
  | item
  /-- A comma. -/
  | comma
  | name
  | value
  | alias (anchor : String)
  | anchor (anchor : String)
  | tag (tag : Tag)
  | scalar (text : String) (isPlain : Bool)

/-! ### Anchors -/

/-- The name of an anchor or of an alias after its mark. -/
def anchorName? (cs : List Placed) : Option (String × List Placed) :=
  match spanClass isWord cs with
  | ([], _) => none
  | (name, rest) =>
      if atGap rest || startsWith (· ∈ ['?', ':', ',', ']', '\x7d', '%', '@', '\x60']) rest then
        some (.ofList name, rest)
      else none

/-! ### Tags -/

/-- The octets that escapes with a per cent sign spell, and what follows the last of them. -/
def escapedOctets : List Placed → List UInt8 × List Placed
  | p :: q :: r :: cs =>
      match p.char, Text.hexValue? [q.char, r.char] with
      | '%', some octet =>
          let (octets, rest) := escapedOctets cs
          (octet.toUInt8 :: octets, rest)
      | _, _ => ([], p :: q :: r :: cs)
  | cs => ([], cs)

/-- How many octets encode a character, told from the first of them. -/
def encodedLength (octet : UInt8) : Nat :=
  if octet < 0x80 then 1
  else if octet &&& 0xE0 = 0xC0 then 2
  else if octet &&& 0xF0 = 0xE0 then 3
  else if octet &&& 0xF8 = 0xF0 then 4
  else 0

/-- The characters that the octets encode; what no character is encoded by stands for one that
appears in no known tag. -/
def decodeOctets : Nat → List UInt8 → Option (List Char)
  | _, [] => some []
  | 0, _ => none
  | fuel + 1, octet :: octets =>
      let length := encodedLength octet - 1
      let more := octets.take length
      if encodedLength octet = 0 || more.length < length ||
          more.any (fun octet => octet &&& 0xC0 ≠ 0x80) then none
      else
        let characters :=
          match String.fromUTF8? ⟨(octet :: more).toArray⟩ with
          | some text => text.toList
          | none => ['\ufffd']
        (characters ++ ·) <$> decodeOctets fuel (octets.drop length)

/-- The characters of tags that stand for themselves; within angle brackets and in directives the
marks of collections may be used too. -/
def isTagChar (isFree : Bool) (c : Char) : Bool :=
  isWord c || (isFree && c ∈ [',', '[', ']']) ||
    c ∈ [';', '/', '?', ':', '@', '&', '=', '+', '$', '.', '!', '~', '*', '\'', '(', ')']

/-- The characters of a tag, of which there are `fuel` at most. -/
def tagChars? (isFree : Bool) : Nat → List Placed → Option (List Char × List Placed)
  | 0, cs => some ([], cs)
  | _, [] => some ([], [])
  | fuel + 1, p :: cs =>
      if p.char = '%' then
        match escapedOctets (p :: cs) with
        | ([], _) => none
        | (octets, rest) => do
            let characters ← decodeOctets octets.length octets
            let (more, rest) ← tagChars? isFree fuel rest
            some (characters ++ more, rest)
      else if isTagChar isFree p.char then do
        let (more, rest) ← tagChars? isFree fuel cs
        some (p.char :: more, rest)
      else some ([], p :: cs)

/-- The part of a tag that counts: an escaped NUL ends it. -/
def tagText (cs : List Char) : String := .ofList (cs.takeWhile (· ≠ '\x00'))

/-- The handle with which a tag begins: an exclamation mark, or a word between two. -/
def handle (cs : List Placed) : List Char × List Placed :=
  let (word, rest) := spanClass isWord (cs.drop 1)
  if startsWith (· = '!') rest then ('!' :: word ++ ['!'], rest.drop 1) else ('!' :: word, rest)

/-- A tag, given the text from its exclamation mark on. -/
def tagAt? (cs : List Placed) : Option (Tag × List Placed) :=
  if startsWith (· = '<') (cs.drop 1) then do
    let (suffix, rest) ← tagChars? true cs.length (cs.drop 2)
    if suffix.isEmpty || !startsWith (· = '>') rest then none
    some (⟨"", tagText suffix⟩, rest.drop 1)
  else do
    let (handle, rest) := handle cs
    let (suffix, rest) ← tagChars? false cs.length rest
    if 1 < handle.length && handle.getLast? = some '!' then
      if suffix.isEmpty then none
      some (⟨.ofList handle, tagText suffix⟩, rest)
    else
      match tagText (handle.drop 1 ++ suffix) with
      | "" => some (⟨"", "!"⟩, rest)
      | suffix => some (⟨"!", suffix⟩, rest)

/-- A tag that ends where a tag may end. -/
def tag? (inFlow : Bool) (cs : List Placed) : Option (Tag × List Placed) := do
  let (tag, rest) ← tagAt? cs
  if atGap rest || (inFlow && startsWith (· = ',') rest) then some (tag, rest) else none

/-! ### Directives -/

/-- A number of at most nine digits. -/
def versionNumber? (cs : List Placed) : Option (Nat × List Placed) :=
  match spanClass isDigit cs with
  | ([], _) => none
  | (digits, rest) =>
      if digits.length ≤ 9 then
        some (digits.foldl (fun value c => value * 10 + (c.toNat - 48)) 0, rest)
      else none

/-- The version that a text is written in. -/
def version? (cs : List Placed) : Option (Token × List Placed) := do
  let (major, rest) ← versionNumber? (dropClass isBlank cs)
  if !startsWith (· = '.') rest then none
  let (minor, rest) ← versionNumber? (rest.drop 1)
  some (.versionDirective major minor, rest)

/-- A handle and what it stands for. -/
def tagDirective? (cs : List Placed) : Option (Token × List Placed) := do
  let cs := dropClass isBlank cs
  if !startsWith (· = '!') cs then none
  let (handle, rest) := handle cs
  if handle ≠ ['!'] && handle.getLast? ≠ some '!' then none
  if !startsWith isBlank rest then none
  let (lead, rest) ← tagChars? true cs.length (dropClass isBlank rest)
  if lead.isEmpty || !atGap rest then none
  some (.tagDirective (.ofList handle) (tagText lead), rest)

/-- A directive after its per cent sign, with the rest of its line. -/
def directive? (cs : List Placed) : Option (Token × List Placed) := do
  let (name, rest) := spanClass isWord cs
  if !atGap rest then none
  let (token, rest) ←
    match String.ofList name with
    | "YAML" => version? rest
    | "TAG" => tagDirective? rest
    | _ => none
  some (token, ← afterBareLine? rest)

end GridMachine.Yaml
