/-!
# Read numbers

A number is an optional sign and either a word for infinity or for an undefined number, in any
case of letters, or digits with an optional point among or around them and an optional exponent.
It reads as the nearest double; beyond the largest as infinity, below the smallest as zero.
-/

namespace Periapsis

namespace Decimal

/-- The value of a string of decimal digits. -/
def digitsValue (digits : List Char) : Nat :=
  digits.foldl (fun n c => 10 * n + (c.toNat - '0'.toNat)) 0

/-- The double nearest to `m × 10 ^ e`. Beyond the range of doubles the power is not computed. -/
def nearestFloat (m : Nat) (e : Int) : Float :=
  let length : Int := (Nat.toDigits 10 m).length
  if m = 0 ∨ e + length < -330 then 0.0
  else if 330 < e + length then 1.0 / 0.0
  else Float.ofScientific m (e < 0) e.natAbs

/-- An exponent: a letter, an optional sign and digits up to the end. No text is exponent zero. -/
def readExponent? : List Char → Option Int
  | [] => some 0
  | letter :: rest =>
    let (negative, digits) := match rest with
      | '-' :: digits => (true, digits)
      | '+' :: digits => (false, digits)
      | digits => (false, digits)
    if (letter = 'e' ∨ letter = 'E') ∧ digits ≠ [] ∧ digits.all Char.isDigit then
      some (if negative then -(digitsValue digits : Int) else digitsValue digits)
    else none

/-- A number without a sign that is not a word. -/
def readDigits? (text : List Char) : Option Float :=
  let whole := text.takeWhile Char.isDigit
  let rest := text.dropWhile Char.isDigit
  let (fraction, rest) := match rest with
    | '.' :: rest => (rest.takeWhile Char.isDigit, rest.dropWhile Char.isDigit)
    | rest => ([], rest)
  if whole = [] ∧ fraction = [] then none
  else (readExponent? rest).map fun e =>
    nearestFloat (digitsValue (whole ++ fraction)) (e - fraction.length)

/-- A number without a sign. -/
def readUnsigned? (text : List Char) : Option Float :=
  let word := text.map Char.toLower
  if word = ['i', 'n', 'f'] ∨ word = ['i', 'n', 'f', 'i', 'n', 'i', 't', 'y'] then some (1.0 / 0.0)
  else if word = ['n', 'a', 'n'] then some (0.0 / 0.0)
  else readDigits? text

/-- A whole text as a number. -/
def readFloat? : List Char → Option Float
  | '-' :: text => (readUnsigned? text).map Float.neg
  | '+' :: text => readUnsigned? text
  | text => readUnsigned? text

end Decimal

end Periapsis
