import Periapsis.Csv.Fault

/-!
# Reading comma-separated files

Bytes as records of fields. A reader goes over the input one byte at a time, so what it makes of
`p ++ q` is what it makes of `q` from where it stands after `p`.

* A comma ends a field; a line feed or a carriage return ends a record. Empty lines are no records.
* A quote at the start of a field opens a quoted part, in which every byte stands for itself and
  two quotes for one. Behind the quoted part the field goes on as if it had none; a quoted part
  that is not closed goes on to the end of the input.
* A byte order mark at the very start is dropped.

Where reading a file fails (`Stream`), only the records that have ended are there.
-/

namespace Periapsis.Csv

/-- A record with the place where its reading began: right behind the one byte that ended the
record before it, so that a second byte of a line end and empty lines count as its own. -/
structure Record where
  start : Position
  fields : List (List UInt8)
deriving DecidableEq, Repr

/-- Where a reader stands in a record. -/
inductive Place where
  /-- No byte of a record has been read. -/
  | outside
  /-- Behind a comma. -/
  | fieldStart
  | bare
  | quoted
  /-- Behind a quote in a quoted part: the first of two, or the end. -/
  | quote
deriving DecidableEq, Repr

/-- What has been read. The last byte, field and record come first. -/
structure Reader where
  place : Place
  field : List UInt8
  fields : List (List UInt8)
  /-- Where the record that is being read, or the next one, began. -/
  start : Position
  records : List Record
  /-- The number of bytes read, and of line feeds among them plus one. -/
  byte : Nat
  line : Nat
deriving DecidableEq, Repr

def comma : UInt8 := ','.toUInt8
def doubleQuote : UInt8 := '"'.toUInt8
def lineFeed : UInt8 := '\n'.toUInt8
def carriageReturn : UInt8 := '\r'.toUInt8

def isLineEnd (b : UInt8) : Bool :=
  b == lineFeed || b == carriageReturn

namespace Reader

/-- A reader in front of a first record, with so many bytes already behind it. -/
def initial (byte : Nat) : Reader where
  place := .outside
  field := []
  fields := []
  start := ⟨0, 1, 0⟩
  records := []
  byte := byte
  line := 1

def push (r : Reader) (b : UInt8) (place : Place) : Reader :=
  { r with field := b :: r.field, place }

def endField (r : Reader) : Reader :=
  { r with field := [], fields := r.field.reverse :: r.fields, place := .fieldStart }

/-- The records read, the one that is being read among them. -/
def recordsSoFar (r : Reader) : List Record :=
  ⟨r.start, (r.field.reverse :: r.fields).reverse⟩ :: r.records

/-- Ends the record; the next one begins here. -/
def endRecord (r : Reader) : Reader :=
  { r with
    place := .outside, field := [], fields := [], records := r.recordsSoFar
    start := ⟨r.start.record + 1, r.line, r.byte⟩ }

/-- A byte outside the quoted part of a field. -/
def bareByte (r : Reader) (b : UInt8) : Reader :=
  if b == comma then r.endField
  else if isLineEnd b then r.endRecord
  else r.push b .bare

/-- Counts a byte. -/
def count (r : Reader) (b : UInt8) : Reader :=
  { r with byte := r.byte + 1, line := if b == lineFeed then r.line + 1 else r.line }

/-- Reads a byte. -/
def step (r : Reader) (b : UInt8) : Reader :=
  let r := r.count b
  match r.place with
  | .outside =>
    if isLineEnd b then r
    else if b == doubleQuote then { r with place := .quoted }
    else r.bareByte b
  | .fieldStart =>
    if b == doubleQuote then { r with place := .quoted } else r.bareByte b
  | .bare => r.bareByte b
  | .quoted => if b == doubleQuote then { r with place := .quote } else r.push b .quoted
  | .quote => if b == doubleQuote then r.push b .quoted else r.bareByte b

def feed (r : Reader) (bytes : List UInt8) : Reader :=
  bytes.foldl step r

theorem feed_append (r : Reader) (p q : List UInt8) : r.feed (p ++ q) = (r.feed p).feed q :=
  List.foldl_append

/-- The records read, in their order. The end of the input ends a record that has begun. -/
def finish (r : Reader) : List Record :=
  (if r.place = .outside then r.records else r.recordsSoFar).reverse

/-- A reader behind the bytes that a file starts with. -/
def behind (bytes : List UInt8) : Reader :=
  match bytes with
  | 0xEF :: 0xBB :: 0xBF :: rest => (initial 3).feed rest
  | bytes => (initial 0).feed bytes

end Reader

/-- The records of a file. -/
def records (bytes : List UInt8) : List Record :=
  (Reader.behind bytes).finish

/-- The records that end within the bytes that a file starts with, whatever comes behind them. -/
def ended (bytes : List UInt8) : List Record :=
  (Reader.behind bytes).records.reverse

/-- What can be read of a file that was opened. -/
structure Stream where
  bytes : List UInt8
  /-- Why reading fails behind the bytes, if the file does not end there. -/
  broken : Option String
deriving DecidableEq, Repr

end Periapsis.Csv
