import Periapsis.Yaml.Scalar

/-!
# Tokens

A YAML file as scalars, indicators, and the starts and ends of the collections that its indentation
stands for. `Token.scan?` finds them from left to right.

A mapping's key is known as one only at the colon behind it. Wherever a key may start, the scan
keeps a `Candidate`; at the colon the key token is put in front of what the candidate was. A
candidate is given up at the end of its line, and after 1024 bytes.
-/

namespace Periapsis.Yaml

inductive Token where
  | scalar (plain : Bool) (text : String)
  | sequenceStart
  | mappingStart
  /-- The end of a block sequence or block mapping. -/
  | blockEnd
  | flowSequenceStart
  | flowSequenceEnd
  | flowMappingStart
  | flowMappingEnd
  /-- The hyphen in front of an item. -/
  | item
  /-- The comma behind an item of a flow collection. -/
  | separator
  | key
  | value
  | documentStart
  | documentEnd
deriving DecidableEq, Repr

/-- Something that may turn out to be a key. -/
structure Candidate where
  mark : Mark
  /-- How many tokens stand before it. -/
  tokens : Nat
  /-- Whether nothing else can stand there. -/
  required : Bool
deriving DecidableEq, Repr

/-- A scan of a file on its way. -/
structure Scan where
  rest : List Char
  mark : Mark
  /-- The column of the innermost block collection; -1 outside of all. -/
  indent : Int
  /-- The columns of the block collections around it. -/
  outer : List Int
  /-- Whether a key may start here. -/
  keyAllowed : Bool
  candidate : Option Candidate
  /-- The candidates outside of each flow collection that is open. -/
  suspended : List (Option Candidate)
  /-- The tokens found, the last one first, and their number. -/
  tokens : List Token
  count : Nat
deriving DecidableEq, Repr

namespace Scan

/-- The start of a file. -/
def initial (text : List Char) : Scan where
  rest := text
  mark := .start
  indent := -1
  outer := []
  keyAllowed := true
  candidate := none
  suspended := []
  tokens := []
  count := 0

/-- Whether a flow collection is open. -/
def inFlow (s : Scan) : Bool :=
  !s.suspended.isEmpty

def emit (s : Scan) (t : Token) : Scan :=
  { s with tokens := t :: s.tokens, count := s.count + 1 }

/-- Puts a token in front of all but the first ones. -/
def emitAt (s : Scan) (position : Nat) (t : Token) : Scan :=
  let later := s.count - position
  { s with
    tokens := s.tokens.take later ++ t :: s.tokens.drop later
    count := s.count + 1 }

/-- Goes on with a text from a mark. -/
def goTo (s : Scan) (rest : List Char) (mark : Mark) : Scan :=
  { s with rest, mark }

/-! ## Between tokens -/

/-- Skips blanks, comments and empty lines, and the byte order mark that any line may start with,
which takes a column. In block context a new line may start with a key, and a tab may not stand
where a key may start. -/
def skipGap (s : Scan) (comment : Bool) (allowed : Bool) (m : Mark) : List Char → Scan
  | [] => { s with rest := [], mark := m, keyAllowed := allowed }
  | c :: rest =>
    if isBreak c then skipGap s false (allowed || !s.inFlow) m.newline rest
    else if comment then skipGap s true allowed (m.past c) rest
    else if c = byteOrderMark ∧ m.column = 0 then skipGap s false allowed (m.past c) rest
    else if c = ' ' ∨ (c = '\t' ∧ (s.inFlow ∨ ¬ allowed)) then skipGap s false allowed m.next rest
    else if c = '#' then skipGap s true allowed m.next rest
    else { s with rest := c :: rest, mark := m, keyAllowed := allowed }

/-- Gives up a candidate that is too far away; it must not have been needed. -/
def dropStale (s : Scan) : Option Scan :=
  match s.candidate with
  | none => some s
  | some k =>
    if k.mark.line < s.mark.line ∨ k.mark.byte + 1024 < s.mark.byte then
      if k.required then none else some { s with candidate := none }
    else some s

/-- Gives up the candidate; it must not have been needed. -/
def dropCandidate (s : Scan) : Option Scan :=
  match s.candidate with
  | none => some s
  | some k => if k.required then none else some { s with candidate := none }

/-- Notes that a key may start here, if it may. -/
def noteCandidate (s : Scan) : Option Scan :=
  if s.keyAllowed then do
    let s ← s.dropCandidate
    return { s with candidate := some {
      mark := s.mark, tokens := s.count
      required := !s.inFlow && s.indent == (s.mark.column : Int) } }
  else some s

/-- Ends the block collections that stand further to the right than a column. -/
def unroll (column : Int) (s : Scan) : List Int → Scan
  | [] => { s with outer := [] }
  | outer :: more =>
    if column < s.indent then unroll column { s.emit .blockEnd with indent := outer } more
    else { s with outer := outer :: more }

def unindent (s : Scan) (column : Int) : Scan :=
  if s.inFlow then s else s.unroll column s.outer

/-- Starts a block collection at a column, unless one is there already; its token stands behind so
many others. -/
def indentTo (s : Scan) (column : Nat) (position : Nat) (t : Token) : Scan :=
  if !s.inFlow && s.indent < (column : Int) then
    { s.emitAt position t with indent := column, outer := s.indent :: s.outer }
  else s

/-! ## Tokens -/

/-- The mark of another document. -/
def documentMark (s : Scan) (t : Token) (rest : List Char) : Option Scan := do
  let s ← (s.unindent (-1)).dropCandidate
  return ({ s with keyAllowed := false }.goTo rest s.mark.next.next.next).emit t

def flowStart (s : Scan) (t : Token) (rest : List Char) : Option Scan := do
  let s ← s.noteCandidate
  return ({ s with
    suspended := s.candidate :: s.suspended, candidate := none
    keyAllowed := true }.goTo rest s.mark.next).emit t

def flowEnd (s : Scan) (t : Token) (rest : List Char) : Option Scan := do
  let s ← s.dropCandidate
  let (candidate, suspended) := match s.suspended with
    | [] => (none, [])
    | candidate :: suspended => (candidate, suspended)
  return ({ s with candidate, suspended, keyAllowed := false }.goTo rest s.mark.next).emit t

def separate (s : Scan) (rest : List Char) : Option Scan := do
  let s ← s.dropCandidate
  return ({ s with keyAllowed := true }.goTo rest s.mark.next).emit .separator

/-- The hyphen in front of an item. -/
def startItem (s : Scan) (rest : List Char) : Option Scan := do
  if !s.inFlow && !s.keyAllowed then none
  else
    let s ← (s.indentTo s.mark.column s.count .sequenceStart).dropCandidate
    return ({ s with keyAllowed := true }.goTo rest s.mark.next).emit .item

/-- The question mark in front of a key. -/
def startKey (s : Scan) (rest : List Char) : Option Scan := do
  if !s.inFlow && !s.keyAllowed then none
  else
    let s ← (s.indentTo s.mark.column s.count .mappingStart).dropCandidate
    return ({ s with keyAllowed := !s.inFlow }.goTo rest s.mark.next).emit .key

/-- The colon in front of a value. It makes a key of the candidate, if there is one. -/
def startValue (s : Scan) (rest : List Char) : Option Scan :=
  match s.candidate with
  | some k =>
    let s := (s.emitAt k.tokens .key).indentTo k.mark.column k.tokens .mappingStart
    some (({ s with candidate := none, keyAllowed := false }.goTo rest s.mark.next).emit .value)
  | none =>
    if !s.inFlow && !s.keyAllowed then none
    else
      let s := s.indentTo s.mark.column s.count .mappingStart
      some (({ s with keyAllowed := !s.inFlow }.goTo rest s.mark.next).emit .value)

/-- A plain or quoted scalar that has been read. -/
def addScalar (s : Scan) (plain : Bool) (read : Scanned) : Scan :=
  ({ s with keyAllowed := read.newline }.goTo read.rest read.mark).emit
    (.scalar plain (String.ofList read.text))

def plainScalar (s : Scan) (text : List Char) : Option Scan := do
  let s ← s.noteCandidate
  let read ← plain s.inFlow (s.indent + 1) [] .empty true s.mark text
  return s.addScalar true read

def quotedScalar (s : Scan) (single : Bool) (rest : List Char) : Option Scan := do
  let s ← s.noteCandidate
  let read ← quoted single [] .empty .text s.mark.next rest
  return s.addScalar false read

def blockScalar (s : Scan) (folding : Bool) (rest : List Char) : Option Scan := do
  let s ← s.dropCandidate
  let read ← block folding s.indent s.mark.next rest
  return s.addScalar false read

/-- Whether plain text may start with a character. -/
def startsPlain (s : Scan) (c : Char) (rest : List Char) : Bool :=
  match c with
  | '-' => !(rest.head?.map isSpace).getD false
  | '?' | ':' => !s.inFlow && !endsWord rest
  | ' ' | '\t' | ',' | '[' | ']' | '\x7b' | '\x7d' | '#' | '&' | '*' | '!' | '|' | '>' | '\'' | '"'
  | '%' | '@' | '\x60' => false
  | _ => true

/-- Finds the token that starts with a character. -/
def token (s : Scan) (c : Char) (rest : List Char) : Option Scan :=
  if s.mark.column = 0 ∧ isDocumentMark (c :: rest) then
    s.documentMark (if c = '-' then .documentStart else .documentEnd) (rest.drop 2)
  else match c with
    | '[' => s.flowStart .flowSequenceStart rest
    | '\x7b' => s.flowStart .flowMappingStart rest
    | ']' => s.flowEnd .flowSequenceEnd rest
    | '\x7d' => s.flowEnd .flowMappingEnd rest
    | ',' => s.separate rest
    | '\'' => s.quotedScalar true rest
    | '"' => s.quotedScalar false rest
    | c =>
      if c = '-' ∧ endsWord rest then s.startItem rest
      else if c = '?' ∧ (s.inFlow ∨ endsWord rest) then s.startKey rest
      else if c = ':' ∧ (s.inFlow ∨ endsWord rest) then s.startValue rest
      else if c = '|' ∧ ¬ s.inFlow then s.blockScalar false rest
      else if c = '>' ∧ ¬ s.inFlow then s.blockScalar true rest
      else if s.startsPlain c rest then s.plainScalar (c :: rest)
      else none

/-! ## Files -/

/-- Goes to the next token: what its place ends is ended. -/
def approach (s : Scan) : Option Scan := do
  let s ← (s.skipGap false s.keyAllowed s.mark s.rest).dropStale
  return s.unindent s.mark.column

/-- The tokens, once nothing is left of the text. -/
def finish (s : Scan) : Option (List Token) := do
  let s ← (s.unindent (-1)).dropCandidate
  return s.tokens.reverse

/-- Finds so many tokens at most. -/
def run : Nat → Scan → Option (List Token)
  | 0, _ => none
  | n + 1, s => do
    let s ← s.approach
    match s.rest with
    | [] => s.finish
    | c :: rest => run n (← s.token c rest)

end Scan

/-- The tokens of a text. Each but those of the indentation takes a character at least. -/
def Token.scan? (text : List Char) : Option (List Token) :=
  (Scan.initial text).run (text.length + 1)

end Periapsis.Yaml
