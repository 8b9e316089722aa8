import GridMachine.Grid.Records
import GridMachine.Text.Blank

/-!
Grids as text, before any cell is looked into. The first record that is not blank holds the headers
of the event columns, each later one the name of a state and its cells. Blank records and empty
fields beyond the headers are passed over; nothing else is.
-/

namespace GridMachine

/-- The row of one state. -/
structure GridRow where
  /-- The line on which reading the row began. -/
  line : Nat
  state : String
  /-- The cells in the order of the columns; there may be fewer than columns. -/
  cells : List String
deriving DecidableEq

structure Grid where
  /-- The headers of the event columns. -/
  events : List String
  rows : List GridRow
deriving DecidableEq

inductive GridError where
  /-- A record is not UTF-8. -/
  | undecodable
  | empty
  | raggedRow (line length headerLength : Nat)
  | emptyStateName (line : Nat)
deriving DecidableEq

namespace GridError

def message : GridError → String
  | .undecodable => "failed to read state machine grid"
  | .empty => "state machine definition grid is empty"
  | .raggedRow line length headerLength =>
      "row " ++ toString line ++ " has " ++ toString length ++
        " columns but the header only has " ++ toString headerLength
  | .emptyStateName line => "row " ++ toString line ++ " has transitions but no state name"

def code : GridError → String
  | .undecodable => "RESOURCE"
  | _ => "FORMAT"

end GridError

/-- A record of trimmed texts. -/
structure Record where
  line : Nat
  fields : List String
deriving DecidableEq

namespace Record

/-- The text that bytes encode. -/
def decode? (bytes : List UInt8) : Option String := String.fromUTF8? ⟨bytes.toArray⟩

/-- The record with its fields decoded and trimmed, if all of them are UTF-8. -/
def ofRaw? (raw : Records.RawRecord) : Option Record := do
  let fields ← raw.fields.mapM decode?
  some ⟨raw.line, fields.map Text.trimmed⟩

def isBlank (record : Record) : Bool := record.fields.all String.isEmpty

end Record

namespace Grid

/-- The names of the states in the order of the rows. -/
def states (grid : Grid) : List String := grid.rows.map GridRow.state

/-- The row of a record that is not blank, in a grid of `width` event columns. -/
def rowOf (width : Nat) (record : Record) : Except GridError GridRow :=
  if (record.fields.drop (width + 1)).any fun field => !field.isEmpty then
    .error (.raggedRow record.line record.fields.length (width + 1))
  else
    match record.fields with
    | [] => .error (.emptyStateName record.line)
    | state :: cells =>
        if state.isEmpty then .error (.emptyStateName record.line)
        else .ok ⟨record.line, state, cells.take width⟩

/-- The rows of the records after the header; `none` is a record that cannot be decoded. -/
def rowsOf (width : Nat) : List (Option Record) → Except GridError (List GridRow)
  | [] => .ok []
  | none :: _ => .error .undecodable
  | some record :: records =>
      if record.isBlank then rowsOf width records
      else do
        let row ← rowOf width record
        let rows ← rowsOf width records
        return row :: rows

/-- The grid of the records. -/
def ofRecords : List (Option Record) → Except GridError Grid
  | [] => .error .empty
  | none :: _ => .error .undecodable
  | some record :: records =>
      if record.isBlank then ofRecords records
      else do
        let events := record.fields.drop 1
        let rows ← rowsOf events.length records
        return ⟨events, rows⟩

/-- The grid that delimited text holds. -/
def read (delimiter : UInt8) (bytes : List UInt8) : Except GridError Grid :=
  ofRecords ((Records.ofBytes delimiter bytes).map Record.ofRaw?)

/-- The text of a grid, with every field between quotes. -/
def render (delimiter : UInt8) (corner : String) (grid : Grid) : List UInt8 :=
  (Records.renderRecord delimiter (corner :: grid.events)) ++
    grid.rows.flatMap fun row => Records.renderRecord delimiter (row.state :: row.cells)

end Grid

end GridMachine
