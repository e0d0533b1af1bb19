import Periapsis.Decimal.Shortest

/-!
# Written numbers

How a double is written: its shortest decimal, with a point in its place or in the scientific way.
What the formats of the program differ in is one `Layout` each, kept with the format; the digits
are the same in all of them, up to the rare tie.
-/

namespace Periapsis

/-- The decisions of a number format. -/
structure Layout where
  /-- The choice between two shortest decimals that are equally near. -/
  tie : Tie
  /-- Whether a number whose leading digit counts `10 ^ e` is written without an exponent. -/
  positional : Int → Bool
  /-- Whether whole numbers, zero too, get a point and a zero. -/
  point : Bool
  notANumber : String
  infinity : String
  minusInfinity : String

namespace Decimal

/-- The place of the leading digit. -/
def leading (d : Decimal) : Int :=
  d.exponent + (Nat.toDigits 10 d.digits).length - 1

def zeros (n : Int) : List Char :=
  List.replicate n.toNat '0'

/-- With a point in its place and as many zeros as that takes. -/
def positional (point : Bool) (d : Decimal) : List Char :=
  let digits := Nat.toDigits 10 d.digits
  if 0 ≤ d.exponent then digits ++ zeros d.exponent ++ if point then ['.', '0'] else []
  else if 0 ≤ d.leading then
    let whole := (d.leading + 1).toNat
    digits.take whole ++ '.' :: digits.drop whole
  else '0' :: '.' :: zeros (-d.leading - 1) ++ digits

/-- One digit before the point, the others behind it if there are any, and the exponent. -/
def scientific (d : Decimal) : List Char :=
  let exponent := 'e' :: (toString d.leading).toList
  match Nat.toDigits 10 d.digits with
  | first :: second :: rest => first :: '.' :: second :: rest ++ exponent
  | digits => digits ++ exponent

end Decimal

namespace Layout

/-- The text of a positive finite double, or of a negative one without its sign. -/
def magnitude (layout : Layout) (x : Float) : List Char :=
  let d := (Binary.ofFloat x).shortest layout.tie
  if layout.positional d.leading then d.positional layout.point else d.scientific

/-- The text of a double. Minus zero keeps its sign, an undefined number has none. -/
def chars (layout : Layout) (x : Float) : List Char :=
  if x.isNaN then layout.notANumber.toList
  else if x.isInf then (if x < 0 then layout.minusInfinity else layout.infinity).toList
  else
    let sign := if x.toBits.toNat / Nat.pow 2 63 = 1 then ['-'] else []
    let size :=
      if x == 0 then if layout.point then ['0', '.', '0'] else ['0'] else layout.magnitude x
    sign ++ size

def write (layout : Layout) (x : Float) : String :=
  String.ofList (layout.chars x)

end Layout

end Periapsis
