import Periapsis.Csv.Reader
import Periapsis.Csv.Writer
import Periapsis.Decimal.Reading
import Periapsis.Table
import Periapsis.Text.Blank
import Periapsis.Text.Utf8

/-!
# Table files

Tables of bodies as comma-separated files with a header: `TableFile.write` and `TableFile.read`.

A file is read row by row and fails at the first fault. Header and fields are taken without blanks
at their ends; columns are found by name, in any order, and unknown ones are passed over. A header
that is no text names nothing, and then the columns stand in the order of `Column.all`.
-/

namespace Periapsis

/-- What a table file says about a body. -/
inductive Column where
  | id
  | mass
  | periapsis
  | speed
  | argument
  | inclination
  | ascendingNode
  | radius
  | red
  | green
  | blue
deriving DecidableEq, Repr

namespace Column

/-- The columns in the order in which they are written. -/
def all : List Column :=
  [id, mass, periapsis, speed, argument, inclination, ascendingNode, radius, red, green, blue]

def name : Column → String
  | id => "id"
  | mass => Field.mass.name
  | periapsis => Field.periapsis.name
  | speed => Field.speed.name
  | argument => Field.argument.name
  | inclination => Field.inclination.name
  | ascendingNode => Field.ascendingNode.name
  | radius => Field.radius.name
  | red => Channel.red.name
  | green => Channel.green.name
  | blue => Channel.blue.name

def ofName? (name : String) : Option Column :=
  all.find? fun column => column.name == name

end Column

/-- What stands in a row under a column. -/
inductive Cell where
  | text (text : String)
  | number (value : Float)
  | blank
deriving Repr

namespace TableFile

/-- Numbers keep a point, and an exponent when very large or very small. -/
def numbers : Layout where
  tie := .even
  positional := fun e => decide (-5 ≤ e) && decide (e ≤ 15)
  point := true
  notANumber := "NaN"
  infinity := "inf"
  minusInfinity := "-inf"

/-! ## Writing -/

def writeOptional (value : Option Float) : List Char :=
  (value.map numbers.chars).getD []

/-- What is written under a column; nothing for what a body does not have. -/
def cell (id : String) (b : Body Float) : Column → List Char
  | .id => id.toList
  | .mass => numbers.chars b.mass
  | .periapsis => numbers.chars b.periapsis
  | .speed => numbers.chars b.speed
  | .argument => numbers.chars b.orientation.argument
  | .inclination => numbers.chars b.orientation.inclination
  | .ascendingNode => numbers.chars b.orientation.ascendingNode
  | .radius => writeOptional b.radius
  | .red => writeOptional (b.color.map Color.red)
  | .green => writeOptional (b.color.map Color.green)
  | .blue => writeOptional (b.color.map Color.blue)

def header : List (List Char) :=
  Column.all.map fun column => column.name.toList

def row (entry : String × Body Float) : List (List Char) :=
  Column.all.map (cell entry.1 entry.2)

/-- The records of a table. A table without bodies has no header either. -/
def records (t : Table Float) : List (List (List Char)) :=
  match t.entries with
  | [] => []
  | entries => header :: entries.map row

/-- The file of a table. -/
def write (t : Table Float) : String :=
  String.ofList (Csv.write (records t))

/-! ## Reading -/

def readNumber (text : List Char) : Except Csv.NumberFault Float :=
  match Decimal.readFloat? text with
  | some value => .ok value
  | none => .error (if text = [] then .empty else .malformed)

/-- Reads what stands under a column. Only the radius and the colour may be left empty. -/
def readCell (column : Column) (text : List Char) : Except Csv.NumberFault Cell :=
  match column with
  | .id => .ok (.text (String.ofList text))
  | .radius | .red | .green | .blue =>
    if text = [] then .ok .blank else (readNumber text).map .number
  | _ => (readNumber text).map .number

/-- Reads fields from left to right, each with its index and its column, into the cells read
before. A column that comes again is a fault whatever stands under it. -/
def readCells (cells : List (Column × Cell)) :
    List (Nat × Column × List Char) → Except Csv.RowFault (List (Column × Cell))
  | [] => .ok cells
  | (index, column, text) :: rest =>
    if (cells.lookup column).isSome then .error (.repeated column.name)
    else match readCell column text with
      | .ok cell => readCells ((column, cell) :: cells) rest
      | .error fault => .error (.number index fault)

/-- The columns of a file: those that its header names, or all of them in their order. -/
inductive Heading where
  | named (columns : List (Option Column))
  | unnamed
deriving DecidableEq, Repr

namespace Heading

def ofFields (fields : List (List UInt8)) : Heading :=
  match fields.mapM Utf8.decode with
  | .ok names => named (names.map fun name => Column.ofName? (String.ofList (Text.trim name)))
  | .error _ => unnamed

def columns : Heading → List (Option Column)
  | named columns => columns
  | unnamed => Column.all.map some

/-- What to say of a row of so many fields in which a column does not occur. -/
def absence (heading : Heading) (length : Nat) (column : Column) : Csv.RowFault :=
  match heading with
  | named _ => .missing column.name
  | unnamed => .short length

/-- The fields of a row that stand under a column, with their indices. -/
def assign (heading : Heading) (texts : List (List Char)) : List (Nat × Column × List Char) :=
  (texts.zip heading.columns).zipIdx.filterMap fun ((text, column), index) =>
    column.map fun column => (index, column, text)

end Heading

/-- The id of a row. -/
def idOf (heading : Heading) (length : Nat) (cells : List (Column × Cell)) :
    Except Csv.RowFault String :=
  match cells.lookup .id with
  | some (.text id) => .ok id
  | _ => .error (heading.absence length .id)

/-- The number that a row has to have under a column. -/
def numberOf (heading : Heading) (length : Nat) (cells : List (Column × Cell)) (column : Column) :
    Except Csv.RowFault Float :=
  match cells.lookup column with
  | some (.number value) => .ok value
  | _ => .error (heading.absence length column)

/-- The number that a row may have under a column. -/
def optionalOf (cells : List (Column × Cell)) (column : Column) : Option Float :=
  match cells.lookup column with
  | some (.number value) => some value
  | _ => none

/-- A row as it is given, its colour perhaps in part. -/
structure Row where
  id : String
  /-- The body without its colour. -/
  plain : Body Float
  red : Option Float
  green : Option Float
  blue : Option Float
deriving Repr

def Row.ofTexts (heading : Heading) (texts : List (List Char)) : Except Csv.RowFault Row := do
  let cells ← readCells [] (heading.assign texts)
  let id ← idOf heading texts.length cells
  let number := numberOf heading texts.length cells
  let mass ← number .mass
  let periapsis ← number .periapsis
  let speed ← number .speed
  let argument ← number .argument
  let inclination ← number .inclination
  let ascendingNode ← number .ascendingNode
  return {
    id
    plain := {
      mass, periapsis, speed
      orientation := { argument, inclination, ascendingNode }
      radius := optionalOf cells .radius
      color := none }
    red := optionalOf cells .red
    green := optionalOf cells .green
    blue := optionalOf cells .blue }

/-- The entry of a row. A colour needs all of its components, or none. -/
def Row.entry (row : Row) : Except (Failure Float) (String × Body Float) :=
  match row.red, row.green, row.blue with
  | some red, some green, some blue =>
    .ok (row.id, { row.plain with color := some ⟨red, green, blue⟩ })
  | none, none, none => .ok (row.id, row.plain)
  | none, _, _ => .error (.partialColor row.id .red)
  | _, none, _ => .error (.partialColor row.id .green)
  | _, _, none => .error (.partialColor row.id .blue)

/-- The fields of a record as text, up to the first that is none. How far that one is text is
counted behind the blanks of ASCII that it starts with. -/
def textsOf (start : Csv.Position) (fields : List (List UInt8)) :
    Except Csv.Fault (List (List Char)) :=
  fields.zipIdx.mapM fun (bytes, index) =>
    match Utf8.decode (bytes.dropWhile Text.isAsciiBlank) with
    | .ok text => .ok (Text.trim text)
    | .error validUpTo => .error (.encoding start index validUpTo)

/-- The row of a record under a header. -/
def readRow (header record : Csv.Record) : Except Csv.Fault Row := do
  if record.fields.length ≠ header.fields.length then
    throw (.uneven record.start record.fields.length header.fields.length)
  let texts ← textsOf record.start record.fields
  match Row.ofTexts (.ofFields header.fields) texts with
  | .ok row => return row
  | .error fault => throw (.row record.start fault)

/-- Adds the body of a record to a table. -/
def readRecord (header : Csv.Record) (t : Table Float) (record : Csv.Record) :
    Except (Failure Float) (Table Float) :=
  match readRow header record with
  | .error fault => .error (.csv fault)
  | .ok row => do
    let (id, body) ← row.entry
    t.insert id body

/-- The table of a file. -/
def read (bytes : List UInt8) : Except (Failure Float) (Table Float) :=
  match Csv.records bytes with
  | [] => .ok .empty
  | header :: rows => rows.foldlM (readRecord header) .empty

/-- The table of what can be read of a file. A failing read is met behind the rows that end before
it. In the header it is passed over, and then there are no rows. -/
def readStream (stream : Csv.Stream) : Except (Failure Float) (Table Float) :=
  match stream.broken with
  | none => read stream.bytes
  | some cause =>
    match Csv.ended stream.bytes with
    | [] => .ok .empty
    | header :: rows => do
      let _ ← rows.foldlM (readRecord header) .empty
      throw (.csv (.unavailable cause))

/-- The table of a file, unless opening the file failed. -/
def load (opened : Except String Csv.Stream) : Except (Failure Float) (Table Float) :=
  match opened with
  | .error cause => .error (.file cause)
  | .ok stream => readStream stream

end TableFile

end Periapsis
