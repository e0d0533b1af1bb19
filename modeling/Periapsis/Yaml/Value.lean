import Periapsis.Decimal.Reading
import Periapsis.Yaml.Node

/-!
# Values

What a plain scalar may stand for other than its own text: nothing, a truth value, a whole number
or a floating-point number.
-/

namespace Periapsis.Yaml

/-- The value of digits in a base, up to one that is none. -/
def digitsValue? (base : Nat) (digits : List Char) : Option Nat :=
  if digits = [] then none
  else digits.foldlM (fun n c =>
    match hexValue? c with
    | some d => if d < base then some (base * n + d) else none
    | none => none) 0

/-- The size of a whole number without its sign: after a mark of its base, or decimal. Decimal
digits with a needless zero in front are no number. -/
def magnitude? : List Char → Option Nat
  | '0' :: 'x' :: digits => digitsValue? 16 digits
  | '0' :: 'o' :: digits => digitsValue? 8 digits
  | '0' :: 'b' :: digits => digitsValue? 2 digits
  | '0' :: _ :: _ => none
  | digits => digitsValue? 10 digits

/-- A whole number of any size. -/
def readInt? : List Char → Option Int
  | '-' :: text => (magnitude? text).map fun n => -(n : Int)
  | '+' :: text => (magnitude? text).map Int.ofNat
  | text => (magnitude? text).map Int.ofNat

/-- A finite number as in decimal text, or a word for one that is not. Of a sign and a word in one
the word stands behind a point. -/
def readNumber? (text : List Char) : Option Float :=
  let unsigned := match text with
    | '+' :: rest => rest
    | _ => text
  let word := String.ofList unsigned
  if text.head? = some '+' ∧ (unsigned.head? = some '+' ∨ unsigned.head? = some '-') then none
  else if word = ".inf" ∨ word = ".Inf" ∨ word = ".INF" then some (1.0 / 0.0)
  else if word = "-.inf" ∨ word = "-.Inf" ∨ word = "-.INF" then some (-1.0 / 0.0)
  else if String.ofList text ∈ [".nan", ".NaN", ".NAN"] then some (0.0 / 0.0)
  else (Decimal.readFloat? unsigned).filter Float.isFinite

/-- Digits only, with a needless zero in front. -/
def isPadded (text : List Char) : Bool :=
  let digits := match text with
    | '-' :: rest | '+' :: rest => rest
    | _ => text
  match digits with
  | '0' :: rest => !rest.isEmpty && rest.all Char.isDigit
  | _ => false

/-- The words for nothing and for the truth values. -/
def isWord (text : List Char) : Bool :=
  ["", "~", "null", "Null", "NULL", "true", "True", "TRUE", "false", "False", "FALSE"].contains
    (String.ofList text)

/-- Whole numbers of up to 128 bits, with a sign or without. -/
def isWhole (text : List Char) : Bool :=
  match readInt? text with
  | some n => decide (-(Nat.pow 2 127 : Int) ≤ n) && decide (n < (Nat.pow 2 128 : Int))
  | none => false

/-- Whether plain text would not be taken for text. -/
def isOther (text : List Char) : Bool :=
  isWord text || isWhole text || (readNumber? text).isSome || isPadded text

namespace Node

/-- The text of a scalar, however it is written. -/
def text? : Node → Option String
  | scalar _ text => some text
  | _ => none

/-- A plain scalar as a whole number of 64 bits. -/
def int? : Node → Option Int
  | scalar true text =>
    (readInt? text.toList).filter fun n =>
      decide (-(Nat.pow 2 63 : Int) ≤ n) && decide (n < (Nat.pow 2 63 : Int))
  | _ => none

/-- A plain scalar as a number. -/
def number? : Node → Option Float
  | scalar true text => readNumber? text.toList
  | _ => none

/-- A sequence of three numbers. -/
def numbers3? : Node → Option (Float × Float × Float)
  | sequence [x, y, z] => do return (← x.number?, ← y.number?, ← z.number?)
  | _ => none

/-- The fields of a mapping whose keys are scalars. -/
def fields? : Node → Option (List (String × Node))
  | mapping pairs => pairs.mapM fun (key, value) => key.text?.map fun name => (name, value)
  | _ => none

end Node

/-- The value of the one field with a name. -/
def field? (name : String) (fields : List (String × Node)) : Option Node :=
  match fields.filter fun field => field.1 == name with
  | [field] => some field.2
  | _ => none

end Periapsis.Yaml
