/-!
Delimited records. Fields stand between delimiters and records end with a line feed, a carriage
return or both. A field that begins with a quote runs to the closing quote and may hold delimiters
and line breaks; a quote inside it is written twice. Empty lines between records are passed over.
The reader works on bytes, so that a text need not be well formed where nobody looks at it.
-/

namespace GridMachine.Records

/-- The bytes of one record's fields, and the line on which reading it began. -/
structure RawRecord where
  line : Nat
  fields : List (List UInt8)
deriving DecidableEq

def quote : UInt8 := 0x22

def lineFeed : UInt8 := 0x0A

def carriageReturn : UInt8 := 0x0D

def isLineBreak (b : UInt8) : Bool := b == lineFeed || b == carriageReturn

/-- How far the reader is within a record. -/
inductive Mode where
  /-- Before the first field, where line breaks are passed over. -/
  | recordStart
  | fieldStart
  | unquoted
  | quoted
  /-- After a quote within a quoted field: the end of the field or half of a doubled quote. -/
  | quoteInQuoted
deriving DecidableEq

/-- The record being read; fields and bytes stand in reverse order. -/
structure State where
  mode : Mode
  /-- One more than the line feeds consumed so far. -/
  line : Nat
  /-- The value of `line` when the record before this one ended. -/
  startLine : Nat
  field : List UInt8
  fields : List (List UInt8)

namespace State

def start : State := ⟨.recordStart, 1, 1, [], []⟩

/-- The record that ends here. -/
def record (state : State) : RawRecord :=
  ⟨state.startLine, (state.field.reverse :: state.fields).reverse⟩

/-- The state before the next record. -/
def next (state : State) : State := ⟨.recordStart, state.line, state.line, [], []⟩

/-- The state before the next field. -/
def nextField (state : State) : State :=
  { state with mode := .fieldStart, field := [], fields := state.field.reverse :: state.fields }

/-- The state with one more byte in its field. -/
def add (state : State) (mode : Mode) (b : UInt8) : State :=
  { state with mode := mode, field := b :: state.field }

/-- A byte that is not part of a quoted field. -/
def stepUnquoted (delimiter : UInt8) (state : State) (b : UInt8) : State × Option RawRecord :=
  if b == delimiter then (state.nextField, none)
  else if isLineBreak b then (state.next, some state.record)
  else (state.add .unquoted b, none)

/-- A byte at the start of a field. -/
def stepField (delimiter : UInt8) (state : State) (b : UInt8) : State × Option RawRecord :=
  if b == quote then ({ state with mode := .quoted }, none)
  else state.stepUnquoted delimiter b

/-- The state after one more byte, and the record that the byte ends. -/
def step (delimiter : UInt8) (state : State) (b : UInt8) : State × Option RawRecord :=
  let state := if b == lineFeed then { state with line := state.line + 1 } else state
  match state.mode with
  | .recordStart =>
      if isLineBreak b then (state, none) else state.stepField delimiter b
  | .fieldStart => state.stepField delimiter b
  | .unquoted => state.stepUnquoted delimiter b
  | .quoted =>
      if b == quote then ({ state with mode := .quoteInQuoted }, none)
      else (state.add .quoted b, none)
  | .quoteInQuoted =>
      if b == quote then (state.add .quoted b, none) else state.stepUnquoted delimiter b

/-- The records that the bytes hold from this state on. -/
def run (delimiter : UInt8) (state : State) : List UInt8 → List RawRecord
  | [] => if state.mode = .recordStart then [] else [state.record]
  | b :: bytes =>
      match state.step delimiter b with
      | (state, none) => state.run delimiter bytes
      | (state, some record) => record :: state.run delimiter bytes

end State

/-- The bytes without a byte order mark in front. -/
def dropByteOrderMark : List UInt8 → List UInt8
  | 0xEF :: 0xBB :: 0xBF :: bytes => bytes
  | bytes => bytes

/-- The records of a text. -/
def ofBytes (delimiter : UInt8) (bytes : List UInt8) : List RawRecord :=
  State.start.run delimiter (dropByteOrderMark bytes)

/-! ### Writing records -/

/-- The bytes of a text. -/
def bytesOf (s : String) : List UInt8 := s.toUTF8.data.toList

/-- A field between quotes, with the quotes in it doubled. -/
def renderField (bytes : List UInt8) : List UInt8 :=
  [quote] ++ bytes.flatMap (fun b => if b == quote then [quote, quote] else [b]) ++ [quote]

/-- A record on a line of its own. -/
def renderRecord (delimiter : UInt8) (fields : List String) : List UInt8 :=
  [delimiter].intercalate (fields.map fun field => renderField (bytesOf field)) ++ [lineFeed]

end GridMachine.Records
