import Periapsis.Yaml.Source

/-!
# Scalars

The four ways to write a text: plain, in single or double quotes, and as a block of lines. Each is
read from the character behind its opening on; what is left, and where, is returned with the text.

Within plain and quoted text a line break is folded: alone it reads as a space, and of several the
first is dropped. Blanks around it are no part of the text.
-/

namespace Periapsis.Yaml

/-- A text that has been read, and what follows it. -/
structure Scanned where
  text : List Char
  rest : List Char
  mark : Mark
  /-- Whether a line was begun behind the text. -/
  newline : Bool
deriving DecidableEq, Repr

/-- What stands between two words of a text, the last character first. -/
inductive Joint where
  | spaces (spaces : List Char)
  /-- A first line break, unless it was escaped, and further ones. -/
  | lines (first : Option Char) (more : List Char)
deriving DecidableEq, Repr

namespace Joint

def empty : Joint := spaces []

/-- Spaces count only before a line break. -/
def space (c : Char) : Joint → Joint
  | spaces s => spaces (c :: s)
  | joint => joint

def newline (c : Char) : Joint → Joint
  | spaces _ => lines (some c) []
  | lines first more => lines first (c :: more)

def isNewline : Joint → Bool
  | spaces _ => false
  | lines .. => true

/-- What a joint reads as, the last character first. -/
def folded : Joint → List Char
  | spaces s => s
  | lines none more => more
  | lines (some first) more =>
    if first = '\n' then if more = [] then [' '] else more else more ++ [first]

end Joint

/-! ## Plain text -/

/-- Reads plain text: up to a comment, a mapping's colon, a character that ends an item where it
stands in a flow collection, and in block context a line that is not indented enough. A tab may not
indent such a line. The text read so far has its last character first. -/
def plain (flow : Bool) (indent : Int) (text : List Char) (joint : Joint) (fresh : Bool)
    (m : Mark) : List Char → Option Scanned
  | [] => some ⟨text.reverse, [], m, joint.isNewline⟩
  | c :: rest =>
    if isSpace c then
      if joint.isNewline ∧ c = '\t' ∧ (m.column : Int) < indent then none
      else plain flow indent text (joint.space c) true m.next rest
    else if isBreak c then plain flow indent text (joint.newline c) true m.newline rest
    else
      let stop : Option Scanned := some ⟨text.reverse, c :: rest, m, joint.isNewline⟩
      if fresh ∧ (c = '#' ∨ (m.column = 0 ∧ isDocumentMark (c :: rest))
          ∨ (¬ flow ∧ (m.column : Int) < indent ∧ joint.isNewline)) then stop
      else if flow ∧ c = ':' ∧ (rest.head?.map (",?[]\x7b\x7d".contains ·)).getD false then none
      else if (c = ':' ∧ endsWord rest) ∨ (flow ∧ ",[]\x7b\x7d".contains c) then stop
      else plain flow indent (c :: (joint.folded ++ text)) .empty false (m.past c) rest

/-! ## Quoted text -/

/-- The character that a letter stands for behind a backslash. -/
def escaped? : Char → Option Char
  | '0' => some '\x00'
  | 'a' => some '\x07'
  | 'b' => some '\x08'
  | 't' | '\t' => some '\t'
  | 'n' => some '\n'
  | 'v' => some '\x0b'
  | 'f' => some '\x0c'
  | 'r' => some '\r'
  | 'e' => some '\x1b'
  | ' ' => some ' '
  | '"' => some '"'
  | '/' => some '/'
  | '\\' => some '\\'
  | 'N' => some '\u0085'
  | '_' => some '\u00a0'
  | 'L' => some '\u2028'
  | 'P' => some '\u2029'
  | _ => none

/-- How many digits of a code point follow a letter behind a backslash. -/
def codeLength? : Char → Option Nat
  | 'x' => some 2
  | 'u' => some 4
  | 'U' => some 8
  | _ => none

def hexValue? (c : Char) : Option Nat :=
  if c.isDigit then some (c.toNat - '0'.toNat)
  else if 'a' ≤ c ∧ c ≤ 'f' then some (c.toNat - 'a'.toNat + 10)
  else if 'A' ≤ c ∧ c ≤ 'F' then some (c.toNat - 'A'.toNat + 10)
  else none

def codePoint? (n : Nat) : Option Char :=
  if n.isValidChar then some (Char.ofNat n) else none

/-- Where a reader of quoted text stands. -/
inductive Quotation where
  | text
  /-- Behind a quote in single quotes: the first of two, or the end. -/
  | quote
  /-- Behind a backslash in double quotes. -/
  | escape
  /-- In front of so many digits of a code point, of which the first ones have a value. -/
  | code (digits value : Nat)
deriving DecidableEq, Repr

/-- Reads text in quotes up to and with its closing quote. A line of it may not look like the mark
of another document. The text read so far has its last character first. -/
def quoted (single : Bool) (text : List Char) (joint : Joint) (state : Quotation) (m : Mark) :
    List Char → Option Scanned
  | [] => if state = .quote then some ⟨text.reverse, [], m, false⟩ else none
  | c :: rest =>
    match state with
    | .quote =>
      if c = '\'' then quoted single ('\'' :: text) .empty .text m.next rest
      else some ⟨text.reverse, c :: rest, m, false⟩
    | .escape =>
      if isBreak c then quoted single text (.lines none []) .text m.newline rest
      else match escaped? c, codeLength? c with
        | some e, _ => quoted single (e :: text) .empty .text m.next rest
        | none, some digits => quoted single text .empty (.code digits 0) m.next rest
        | none, none => none
    | .code digits value =>
      match hexValue? c with
      | none => none
      | some h =>
        let value := 16 * value + h
        if digits ≤ 1 then
          match codePoint? value with
          | some e => quoted single (e :: text) .empty .text m.next rest
          | none => none
        else quoted single text .empty (.code (digits - 1) value) m.next rest
    | .text =>
      if m.column = 0 ∧ isDocumentMark (c :: rest) then none
      else if isSpace c then quoted single text (joint.space c) .text m.next rest
      else if isBreak c then quoted single text (joint.newline c) .text m.newline rest
      else
        let text := joint.folded ++ text
        if single then
          if c = '\'' then quoted single text .empty .quote m.next rest
          else quoted single (c :: text) .empty .text (m.past c) rest
        else if c = '"' then some ⟨text.reverse, rest, m.next, false⟩
        else if c = '\\' then quoted single text .empty .escape m.next rest
        else quoted single (c :: text) .empty .text (m.past c) rest

/-! ## Blocks of lines -/

/-- What becomes of the line breaks at the end of a block. -/
inductive Chomping where
  | strip
  | clip
  | keep
deriving DecidableEq, Repr

/-- A block that is being read. -/
structure Block where
  folding : Bool
  chomping : Chomping
  /-- The least indentation of its lines. -/
  least : Nat
  /-- The indentation of its lines, when it is known. -/
  indent : Option Nat
  /-- The greatest indentation seen before that. -/
  widest : Nat
  text : List Char
  /-- The break behind the last line, and the breaks of empty lines after it. -/
  lineBreak : List Char
  breaks : List Char
  /-- Whether the last line starts with a blank. -/
  blank : Bool
  /-- Whether a line is being read, and not its indentation. -/
  inLine : Bool
deriving DecidableEq, Repr

namespace Block

/-- Whether a column is still in the indentation of a line. -/
def inMargin (b : Block) (column : Nat) : Bool :=
  match b.indent with
  | none => true
  | some indent => column < indent

/-- Settles the indentation, if need be, at a line that starts at a column. -/
def settle (b : Block) (column : Nat) : Nat :=
  b.indent.getD (max (max b.widest column) b.least)

/-- Begins a line with its first character. Between two lines that start with no blank a folded
block has a space, or as many breaks as there are empty lines. -/
def beginLine (b : Block) (indent : Nat) (c : Char) : Block :=
  let joined :=
    if b.folding ∧ b.lineBreak = ['\n'] ∧ ¬ b.blank ∧ ¬ isSpace c then
      if b.breaks = [] then [' '] else []
    else b.lineBreak
  { b with
    indent := some indent
    text := c :: (b.breaks ++ joined ++ b.text)
    lineBreak := [], breaks := [], blank := isSpace c, inLine := true }

/-- The text of the block, the last character first. -/
def finish (b : Block) : List Char :=
  match b.chomping with
  | .strip => b.text
  | .clip => b.lineBreak ++ b.text
  | .keep => b.breaks ++ b.lineBreak ++ b.text

/-- Reads the lines of a block, up to one that is not indented enough. A tab may not indent. -/
def lines (b : Block) (m : Mark) : List Char → Option Scanned
  | [] => some ⟨b.finish.reverse, [], m, true⟩
  | c :: rest =>
    if b.inLine then
      if isBreak c then lines { b with lineBreak := [c], inLine := false } m.newline rest
      else lines { b with text := c :: b.text } (m.past c) rest
    else if c = ' ' ∧ b.inMargin m.column then lines b m.next rest
    else if c = '\t' ∧ b.inMargin m.column then none
    else if isBreak c then
      lines { b with breaks := c :: b.breaks, widest := max b.widest m.column } m.newline rest
    else
      let indent := b.settle m.column
      if m.column = indent then lines (b.beginLine indent c) (m.past c) rest
      else some ⟨b.finish.reverse, c :: rest, m, true⟩

end Block

/-- The header of a block: how its end is chomped, and its indentation if it is given. -/
structure Header where
  chomping : Chomping
  increment : Option Nat
  rest : List Char
  mark : Mark
deriving DecidableEq, Repr

def chomping? : Char → Option Chomping
  | '-' => some .strip
  | '+' => some .keep
  | _ => none

/-- A digit from one to nine. -/
def increment? (c : Char) : Option Nat :=
  if '1' ≤ c ∧ c ≤ '9' then some (c.toNat - '0'.toNat) else none

/-- Skips blanks and a comment up to the end of the line, and the end itself. -/
def skipLine (comment : Bool) (m : Mark) : List Char → Option (List Char × Mark)
  | [] => some ([], m)
  | c :: rest =>
    if isBreak c then some (rest, m.newline)
    else if comment ∨ isSpace c then skipLine comment (m.past c) rest
    else if c = '#' then skipLine true m.next rest
    else none

/-- Reads a sign and a digit, in either order and neither needed, and the rest of the line. -/
def Header.read (m : Mark) (text : List Char) : Option Header := do
  let (chomping, increment, text, m) :=
    match text with
    | [] => (Chomping.clip, none, [], m)
    | c :: rest =>
      match chomping? c, increment? c, rest with
      | some chomping, _, d :: rest' =>
        match increment? d with
        | some n => (chomping, some n, rest', m.next.next)
        | none => (chomping, none, rest, m.next)
      | some chomping, _, [] => (chomping, none, [], m.next)
      | none, some n, d :: rest' =>
        match chomping? d with
        | some chomping => (chomping, some n, rest', m.next.next)
        | none => (.clip, some n, rest, m.next)
      | none, some n, [] => (.clip, some n, [], m.next)
      | none, none, _ => (.clip, none, text, m)
  let (rest, m) ← skipLine false m text
  return ⟨chomping, increment, rest, m⟩

/-- Reads a block, literal or folded, inside a collection with an indentation. -/
def block (folding : Bool) (indent : Int) (m : Mark) (text : List Char) : Option Scanned := do
  let header ← Header.read m text
  let b : Block := {
    folding, chomping := header.chomping
    least := (max (indent + 1) 1).toNat
    indent := header.increment.map fun n => (max indent 0).toNat + n
    widest := 0, text := [], lineBreak := [], breaks := [], blank := false, inLine := false }
  b.lines header.mark header.rest

end Periapsis.Yaml
