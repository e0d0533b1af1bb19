/-!
# Scalars

The numbers that orbits are computed in. Every formula of the library is written once, over a
`Scalar`: the program runs it on doubles, and a proof may read it over the reals, or over any
ordered field with whatever sine and cosine it likes.

Nothing is assumed of the operations. Doubles neither associate nor distribute, so the order in
which a formula adds and multiplies is part of its meaning.
-/

namespace Periapsis

/-- The arithmetic that orbits are computed in, with angles in radians. -/
class Scalar (α : Type) extends
    Zero α, One α, Add α, Sub α, Mul α, Div α, Neg α, LE α, LT α, BEq α, OfScientific α where
  sin : α → α
  cos : α → α
  sqrt : α → α
  /-- Neither infinite nor undefined. -/
  isFinite : α → Bool
  decLe : DecidableLE α
  decLt : DecidableLT α

namespace Scalar

variable {α : Type} [Scalar α]

instance : DecidableLE α := decLe

instance : DecidableLT α := decLt

/-- An angle given in degrees, in radians: one multiplication by the double nearest π/180. -/
def radians (degrees : α) : α :=
  degrees * 0.017453292519943295

end Scalar

instance : Scalar Float where
  zero := 0.0
  one := 1.0
  sin := Float.sin
  cos := Float.cos
  sqrt := Float.sqrt
  isFinite := Float.isFinite
  decLe := inferInstance
  decLt := inferInstance

end Periapsis
