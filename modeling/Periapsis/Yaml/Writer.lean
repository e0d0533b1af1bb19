import Periapsis.Yaml.Value

/-!
# Written scalars

How a text is written so that it reads back as that text: as a block of lines if it has several,
in single quotes if it would be taken for something else, plain if it can be, and otherwise in
single or in double quotes. Lines are never folded.
-/

namespace Periapsis.Yaml

/-- The ways to write a text. -/
inductive Style where
  | plain
  | single
  | double
  | literal
deriving DecidableEq, Repr

/-! ## What a style allows -/

/-- A character that only double quotes can hold: a control, a tab, a byte order mark. -/
def isSpecial (c : Char) : Bool :=
  let n := c.toNat
  !(n == 0x0A || (0x20 ≤ n && n ≤ 0x7E) || (0xA0 ≤ n && n ≤ 0xD7FF)
    || (0xE000 ≤ n && n ≤ 0xFFFD && n != 0xFEFF) || 0x10000 ≤ n)

/-- A line break, or what older rules take for one. -/
def isWrittenBreak (c : Char) : Bool :=
  c == '\n' || c == '\r' || c == '\u0085'

/-- Whether a text ends, or goes on with something that ends a word. -/
def endsWritten : List Char → Bool
  | [] => true
  | c :: _ => isSpace c || isWrittenBreak c || c == '\x00'

/-- Whether plain text cannot start like this. -/
def hasIndicator (text : List Char) : Bool :=
  match text with
  | '-' :: '-' :: '-' :: _ | '.' :: '.' :: '.' :: _ => true
  | c :: rest =>
    "#,[]\x7b\x7d&*!|>'\"%@\x60".contains c || ("?:-".contains c && endsWritten rest)
  | [] => false

/-- Whether a colon in front of the end of a word, or a number sign behind one, is in a text. The
flag tells that the text so far ends a word. -/
def hasMarkup : Bool → List Char → Bool
  | _, [] => false
  | ended, c :: rest =>
    (c == ':' && endsWritten rest) || (c == '#' && ended) || hasMarkup (endsWritten [c]) rest

/-- Whether a space stands in front of a line break. -/
def hasSpaceBeforeBreak : List Char → Bool
  | [] => false
  | c :: rest => (c == ' ' && rest.head?.any isWrittenBreak) || hasSpaceBeforeBreak rest

def plainAllowed (text : List Char) : Bool :=
  !(hasIndicator text || hasMarkup false text || text.head? == some ' ' || text.getLast? == some ' '
    || text.any isSpecial || text.any isWrittenBreak)

def singleAllowed (text : List Char) : Bool :=
  !(text.any isSpecial || hasSpaceBeforeBreak text)

def literalAllowed (text : List Char) : Bool :=
  !(text.any isSpecial || hasSpaceBeforeBreak text || text.getLast? == some ' ')

def Style.of (text : List Char) : Style :=
  if text.contains '\n' then if literalAllowed text then literal else double
  else if isOther text then single
  else if plainAllowed text then plain
  else if singleAllowed text then single
  else double

/-! ## The styles -/

def hexDigits (width n : Nat) : List Char :=
  let digits := (Nat.toDigits 16 n).map Char.toUpper
  List.replicate (width - digits.length) '0' ++ digits

/-- A character between double quotes. -/
def escapeDouble (c : Char) : List Char :=
  match c with
  | '\x00' => ['\\', '0']
  | '\x07' => ['\\', 'a']
  | '\x08' => ['\\', 'b']
  | '\t' => ['\\', 't']
  | '\n' => ['\\', 'n']
  | '\x0b' => ['\\', 'v']
  | '\x0c' => ['\\', 'f']
  | '\r' => ['\\', 'r']
  | '\x1b' => ['\\', 'e']
  | '"' => ['\\', '"']
  | '\\' => ['\\', '\\']
  | '\u0085' => ['\\', 'N']
  | c =>
    if !isSpecial c then [c]
    else if c.toNat < 0x100 then '\\' :: 'x' :: hexDigits 2 c.toNat
    else '\\' :: 'u' :: hexDigits 4 c.toNat

def writeDouble (text : List Char) : List Char :=
  '"' :: text.flatMap escapeDouble ++ ['"']

def writeSingle (text : List Char) : List Char :=
  '\'' :: text.flatMap (fun c => if c = '\'' then ['\'', '\''] else [c]) ++ ['\'']

/-- The lines of a block, each indented unless it is empty, and ended. The flag tells that a line
has begun. -/
def writeLines (indent : Nat) : Bool → List Char → List Char
  | true, [] => ['\n']
  | false, [] => []
  | begun, c :: rest =>
    if c = '\n' then '\n' :: writeLines indent false rest
    else if begun then c :: writeLines indent true rest
    else List.replicate indent ' ' ++ c :: writeLines indent true rest

/-- How much further a block is indented than what it belongs to. -/
def indentStep : Nat := 2

/-- A literal block with its header. The header gives the indentation where the text hides it, and
says what to make of the last line breaks unless the text ends in exactly one. -/
def writeLiteral (indent : Nat) (text : List Char) : List Char :=
  let hint := if text.head?.any (fun c => c == ' ' || isWrittenBreak c) then
      Nat.toDigits 10 indentStep else []
  let chomping :=
    match text.reverse with
    | '\n' :: [] | '\n' :: '\n' :: _ => ['+']
    | '\n' :: _ => []
    | _ => ['-']
  '|' :: hint ++ chomping ++ '\n' :: writeLines indent false text

/-- A text as a scalar. Lines of a block get an indentation; a block ends its last line. -/
def writeScalar (indent : Nat) (text : List Char) : List Char :=
  match Style.of text with
  | .plain => text
  | .single => writeSingle text
  | .double => writeDouble text
  | .literal => writeLiteral indent text

/-- A text as a scalar and the end of its line. -/
def writeText (indent : Nat) (text : List Char) : List Char :=
  match Style.of text with
  | .literal => writeLiteral indent text
  | _ => writeScalar indent text ++ ['\n']

end Periapsis.Yaml
