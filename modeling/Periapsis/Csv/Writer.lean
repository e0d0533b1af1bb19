/-!
# Writing comma-separated files

A field with a comma, a quote or a line end in it is put in quotes, with its own quotes doubled;
any other field is written as it is. A record ends in a line feed.
-/

namespace Periapsis.Csv

/-- Whether a character has a meaning of its own in a file. -/
def isSpecial (c : Char) : Bool :=
  c == ',' || c == '"' || c == '\n' || c == '\r'

/-- The inside of a quoted field. -/
def doubleQuotes : List Char → List Char
  | [] => []
  | c :: rest => if c = '"' then '"' :: '"' :: doubleQuotes rest else c :: doubleQuotes rest

def writeField (text : List Char) : List Char :=
  if text.any isSpecial then '"' :: doubleQuotes text ++ ['"'] else text

def writeRecord (fields : List (List Char)) : List Char :=
  [','].intercalate (fields.map writeField) ++ ['\n']

/-- A file of these records. -/
def write (records : List (List (List Char))) : List Char :=
  records.flatMap writeRecord

end Periapsis.Csv
