import Periapsis.Yaml.Token

/-!
# Nodes

The content of a YAML document: scalars, sequences and mappings. `Node.ofTokens?` builds it from
tokens, going down into collections; each of its parts returns the tokens that it leaves.
-/

namespace Periapsis.Yaml

inductive Node where
  | scalar (plain : Bool) (text : String)
  | sequence (items : List Node)
  /-- Keys and values in the order in which they stand. -/
  | mapping (pairs : List (Node × Node))
deriving Repr

namespace Node

/-- What stands where nothing is written. -/
def absent : Node := scalar true ""

/-- Whether the next token is one of these. -/
def follows (expected : List Token) : List Token → Bool
  | [] => false
  | t :: _ => expected.contains t

/-- The tokens of the next item of a flow collection, behind a comma unless it is the first one. -/
def afterSeparator? (first : Bool) (tokens : List Token) : Option (List Token) :=
  if first then some tokens
  else match tokens with
    | .separator :: rest => some rest
    | _ => none

mutual

/-- A node, in block or in flow context. As the value of a mapping, items at the mapping's own
indentation make a sequence. -/
def read : Nat → (inBlock : Bool) → (asValue : Bool) → List Token → Option (Node × List Token)
  | 0, _, _, _ => none
  | n + 1, inBlock, asValue, tokens =>
    match tokens with
    | .scalar plain text :: rest => some (scalar plain text, rest)
    | .flowSequenceStart :: rest => readFlowItems n true [] rest
    | .flowMappingStart :: rest => readFlowPairs n true [] rest
    | .sequenceStart :: rest => if inBlock then readItems n [] rest else none
    | .mappingStart :: rest => if inBlock then readPairs n [] rest else none
    | .item :: _ => if asValue then readFlatItems n [] tokens else none
    | _ => none

/-- A node of a block collection, or nothing in front of one of these tokens. -/
def readOptional : Nat → (asValue : Bool) → List Token → List Token → Option (Node × List Token)
  | 0, _, _, _ => none
  | n + 1, asValue, ends, tokens =>
    if follows ends tokens then some (absent, tokens) else read n true asValue tokens

/-- A node of a flow collection, or nothing in front of one of these tokens. -/
def readFlowOptional : Nat → List Token → List Token → Option (Node × List Token)
  | 0, _, _ => none
  | n + 1, ends, tokens =>
    if follows ends tokens then some (absent, tokens) else read n false false tokens

/-- The items of a block sequence, behind those read before. -/
def readItems : Nat → List Node → List Token → Option (Node × List Token)
  | 0, _, _ => none
  | n + 1, items, tokens =>
    match tokens with
    | .item :: rest => do
      let (x, rest) ← readOptional n false [.item, .blockEnd] rest
      readItems n (x :: items) rest
    | .blockEnd :: rest => some (sequence items.reverse, rest)
    | _ => none

/-- The items of a sequence that has no indentation of its own. -/
def readFlatItems : Nat → List Node → List Token → Option (Node × List Token)
  | 0, _, _ => none
  | n + 1, items, tokens =>
    match tokens with
    | .item :: rest => do
      let (x, rest) ← readOptional n false [.item, .key, .value, .blockEnd] rest
      readFlatItems n (x :: items) rest
    | rest => some (sequence items.reverse, rest)

/-- The pairs of a block mapping, behind those read before. -/
def readPairs : Nat → List (Node × Node) → List Token → Option (Node × List Token)
  | 0, _, _ => none
  | n + 1, pairs, tokens =>
    match tokens with
    | .key :: rest => do
      let (key, rest) ← readOptional n true [.key, .value, .blockEnd] rest
      match rest with
      | .value :: rest =>
        let (value, rest) ← readOptional n true [.key, .value, .blockEnd] rest
        readPairs n ((key, value) :: pairs) rest
      | rest => readPairs n ((key, absent) :: pairs) rest
    | .blockEnd :: rest => some (mapping pairs.reverse, rest)
    | _ => none

/-- The items of a flow sequence. An item may be a single pair without braces. -/
def readFlowItems : Nat → (first : Bool) → List Node → List Token → Option (Node × List Token)
  | 0, _, _, _ => none
  | n + 1, first, items, tokens =>
    match tokens with
    | .flowSequenceEnd :: rest => some (sequence items.reverse, rest)
    | tokens => do
      match ← afterSeparator? first tokens with
      | .flowSequenceEnd :: rest => some (sequence items.reverse, rest)
      | .key :: rest =>
        let (pair, rest) ← readFlowPair n rest
        readFlowItems n false (pair :: items) rest
      | rest =>
        let (x, rest) ← read n false false rest
        readFlowItems n false (x :: items) rest

/-- A single pair behind its key token. Where the key is left out, so is the token that shows it. -/
def readFlowPair : Nat → List Token → Option (Node × List Token)
  | 0, _ => none
  | n + 1, tokens => do
    let (key, rest) ←
      if follows [.value, .separator, .flowSequenceEnd] tokens then some (absent, tokens.drop 1)
      else read n false false tokens
    match rest with
    | .value :: rest =>
      let (value, rest) ← readFlowOptional n [.separator, .flowSequenceEnd] rest
      return (mapping [(key, value)], rest)
    | rest => return (mapping [(key, absent)], rest)

/-- The pairs of a flow mapping. A node without a colon is a key without a value. -/
def readFlowPairs : Nat → (first : Bool) → List (Node × Node) → List Token →
    Option (Node × List Token)
  | 0, _, _, _ => none
  | n + 1, first, pairs, tokens =>
    match tokens with
    | .flowMappingEnd :: rest => some (mapping pairs.reverse, rest)
    | tokens => do
      match ← afterSeparator? first tokens with
      | .flowMappingEnd :: rest => some (mapping pairs.reverse, rest)
      | .key :: rest =>
        let (key, rest) ← readFlowOptional n [.value, .separator, .flowMappingEnd] rest
        match rest with
        | .value :: rest =>
          let (value, rest) ← readFlowOptional n [.separator, .flowMappingEnd] rest
          readFlowPairs n false ((key, value) :: pairs) rest
        | rest => readFlowPairs n false ((key, absent) :: pairs) rest
      | rest =>
        let (key, rest) ← read n false false rest
        readFlowPairs n false ((key, absent) :: pairs) rest

end

/-- The content of a document, behind which only its end may stand. -/
def readDocument (tokens : List Token) : Option Node := do
  let (content, rest) ← read (4 * tokens.length + 4) true false tokens
  if rest.all (· == .documentEnd) then return content else none

/-- The content of a file with one document. -/
def ofTokens? : List Token → Option Node
  | .documentStart :: rest =>
    if rest.all (· == .documentEnd) then some absent else readDocument rest
  | tokens => readDocument tokens

end Node

end Periapsis.Yaml
