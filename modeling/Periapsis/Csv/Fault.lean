/-!
# Faults of comma-separated files

What can be wrong with a record, and where it stands. A record is placed by its number, the header
being number 0, and by the point where its reading began: how many bytes lie before it, and how
many line feeds among them.
-/

namespace Periapsis.Csv

/-- Where the reading of a record began. -/
structure Position where
  record : Nat
  line : Nat
  byte : Nat
deriving DecidableEq, Repr

/-- What keeps a text from being a number. -/
inductive NumberFault where
  | empty
  | malformed
deriving DecidableEq, Repr

/-- What keeps the fields of a record from being a row of a table. -/
inductive RowFault where
  /-- The field with this index is not a number. -/
  | number (index : Nat) (fault : NumberFault)
  /-- The header names a column twice. -/
  | repeated (column : String)
  /-- The header does not name a column. -/
  | missing (column : String)
  /-- Without a header, there are only so many fields. -/
  | short (length : Nat)
deriving DecidableEq, Repr

inductive Fault where
  /-- A record has not as many fields as the header. -/
  | uneven (start : Position) (found expected : Nat)
  /-- A field is text only up to a byte. -/
  | encoding (start : Position) (index validUpTo : Nat)
  | row (start : Position) (fault : RowFault)
  /-- The bytes could not be had. -/
  | unavailable (cause : String)
deriving DecidableEq, Repr

def NumberFault.message : NumberFault → String
  | empty => "cannot parse float from empty string"
  | malformed => "invalid float literal"

def RowFault.message : RowFault → String
  | number index fault => s!"field {index}: {fault.message}"
  | repeated column => s!"duplicate field `{column}`"
  | missing column => s!"missing field `{column}`"
  | short length => s!"invalid length {length}, expected struct BodyRecord with 11 elements"

def Fault.message : Fault → String
  | uneven start found expected =>
    s!"CSV error: record {start.record} (line: {start.line}, byte: {start.byte}): " ++
      s!"found record with {found} fields, but the previous record has {expected} fields"
  | encoding start index validUpTo =>
    s!"CSV parse error: record {start.record} " ++
      s!"(line {start.line}, field: {index}, byte: {start.byte}): " ++
      s!"invalid utf-8: invalid UTF-8 in field {index} near byte index {validUpTo}"
  | row start fault =>
    s!"CSV deserialize error: record {start.record} (line: {start.line}, byte: {start.byte}): " ++
      fault.message
  | unavailable cause => cause

end Periapsis.Csv
