import Periapsis.Text.Utf8

/-!
# Source text

The characters of a YAML file, and the place of each. Carriage returns, with or without a line
feed, and next-line characters end a line like line feeds do and are read as such; the two Unicode
separators end a line too, but are kept for what they are.
-/

namespace Periapsis.Yaml

/-- A line, and how many characters and bytes of it lie before the place, all from zero. -/
structure Mark where
  line : Nat
  column : Nat
  byte : Nat
deriving DecidableEq, Repr

namespace Mark

/-- The start of a text. -/
def start : Mark :=
  ⟨0, 0, 0⟩

/-- Behind one more character of the line. -/
def past (m : Mark) (c : Char) : Mark :=
  ⟨m.line, m.column + 1, m.byte + c.utf8Size⟩

/-- Behind one more character of ASCII. -/
def next (m : Mark) : Mark :=
  ⟨m.line, m.column + 1, m.byte + 1⟩

/-- Behind a line break. -/
def newline (m : Mark) : Mark :=
  ⟨m.line + 1, 0, 0⟩

end Mark

/-- The character that may mark the start of a text, or of a line. -/
def byteOrderMark : Char := '\ufeff'

/-- Ends a line. -/
def isBreak (c : Char) : Bool :=
  c == '\n' || c == '\u2028' || c == '\u2029'

/-- A space or a tab. -/
def isSpace (c : Char) : Bool :=
  c == ' ' || c == '\t'

/-- Whether a text ends, or goes on with a space, a tab or a line break. -/
def endsWord : List Char → Bool
  | [] => true
  | c :: _ => isSpace c || isBreak c

/-- Whether a line starts with three hyphens or three points that stand alone. -/
def isDocumentMark : List Char → Bool
  | '-' :: '-' :: '-' :: rest => endsWord rest
  | '.' :: '.' :: '.' :: rest => endsWord rest
  | _ => false

/-- Whether a file may hold a character. -/
def isPermitted (c : Char) : Bool :=
  let n := c.toNat
  n == 0x09 || n == 0x0A || n == 0x0D || (0x20 ≤ n && n ≤ 0x7E) || n == 0x85
    || (0xA0 ≤ n && n ≤ 0xFFFD) || 0x10000 ≤ n

/-- Reads the ends of lines as line feeds. The text read so far has its last character first; the
flag tells that it ends in a carriage return, which a line feed then only completes. -/
def unifyBreaks : List Char → Bool → List Char → List Char
  | read, _, [] => read.reverse
  | read, afterReturn, c :: rest =>
    if c = '\n' ∧ afterReturn then unifyBreaks read false rest
    else if c = '\r' then unifyBreaks ('\n' :: read) true rest
    else if c = '\u0085' then unifyBreaks ('\n' :: read) false rest
    else unifyBreaks (c :: read) false rest

/-- The characters of a file, if it holds text and nothing but permitted characters. -/
def source (bytes : List UInt8) : Option (List Char) :=
  match Utf8.decode bytes with
  | .ok text => if text.all isPermitted then some (unifyBreaks [] false text) else none
  | .error _ => none

end Periapsis.Yaml
