/-!
# The shortest decimal of a double

Of the decimals that a double is the nearest double to, the one with the fewest digits, and of
those the nearest. A double is taken apart into `significand × 2 ^ exponent`; the reals that round
to it form an interval, which holds its ends exactly when the significand is even. The decimals
with a fixed last place form a grid, and if any point of a grid lies in the interval then so does
one of the double's two neighbours on it, so the coarsest grid with such a neighbour decides.
-/

namespace Periapsis

/-- The positive number `significand × 2 ^ exponent`. -/
structure Binary where
  significand : Nat
  exponent : Int
  /-- Whether the next smaller double is half as far away as the next larger one. -/
  lowest : Bool
deriving DecidableEq, Repr

/-- The size of a finite double, its sign left out. -/
def Binary.ofFloat (x : Float) : Binary :=
  let bits := x.toBits.toNat
  let fraction := bits % Nat.pow 2 52
  let scale : Nat := bits / Nat.pow 2 52 % Nat.pow 2 11
  if scale = 0 then ⟨fraction, -1074, false⟩
  else ⟨fraction + Nat.pow 2 52, (scale : Int) - 1075, fraction = 0 ∧ scale ≠ 1⟩

/-- The positive number `digits × 10 ^ exponent`. -/
structure Decimal where
  digits : Nat
  exponent : Int
deriving DecidableEq, Repr

/-- Where to go from the exact middle between two decimals of the same length. -/
inductive Tie where
  | up
  | even
deriving DecidableEq, Repr

namespace Binary

/-- A quarter of the last place of `b`, and the last place `10 ^ e`, in a common unit. -/
def inUnits (b : Binary) (e : Int) : Nat × Nat :=
  let q := b.exponent - 2
  (Nat.pow 2 q.toNat * Nat.pow 10 (-e).toNat, Nat.pow 10 e.toNat * Nat.pow 2 (-q).toNat)

/-- Whether `b` is the nearest double to `d`. -/
def nearestTo (b : Binary) (d : Decimal) : Bool :=
  let (quarter, place) := b.inUnits d.exponent
  let low := (4 * b.significand - if b.lowest then 1 else 2) * quarter
  let high := (4 * b.significand + 2) * quarter
  let point := d.digits * place
  if b.significand % 2 = 0 then low ≤ point && point ≤ high
  else low < point && point < high

/-- The neighbour of `b` on the grid of last place `10 ^ e` that it is the nearest double to, if
there is one: the nearer one if both are. -/
def neighbour? (tie : Tie) (b : Binary) (e : Int) : Option Decimal :=
  let (quarter, place) := b.inUnits e
  let value := 4 * b.significand * quarter
  let below := value / place
  let rest := value % place
  let lower : Decimal := ⟨below, e⟩
  let upper : Decimal := ⟨below + 1, e⟩
  match b.nearestTo lower, b.nearestTo upper with
  | false, false => none
  | true, false => some lower
  | false, true => some upper
  | true, true =>
    if 2 * rest < place then some lower
    else if place < 2 * rest then some upper
    else if tie = .even ∧ below % 2 = 0 then some lower
    else some upper

/-- The first hit on grids that get finer from `10 ^ e` on. -/
def search (tie : Tie) (b : Binary) : Nat → Int → Decimal
  | 0, e => ⟨4 * b.significand * (b.inUnits e).1 / (b.inUnits e).2, e⟩
  | n + 1, e => (b.neighbour? tie e).getD (search tie b n (e - 1))

/-- The shortest decimal of a positive double, the nearest of several. The search starts at a power
of ten above the number, by an estimate of its logarithm that is at most two places too high; the
seventeenth place always hits. -/
def shortest (tie : Tie) (b : Binary) : Decimal :=
  b.search tie 20 ((Nat.log2 b.significand + 1 + b.exponent) * 30103 / 100000 + 1)

end Binary

end Periapsis
