import Periapsis.Vector

/-!
# Rotations

Right-handed turns about the axes of the frame, and the orientation of an orbit, which is three of
them in a row. The inverse orientation is given twice: as the transpose of the matrix, and as the
turns undone one by one.
-/

namespace Periapsis

inductive Axis where
  | x
  | y
  | z
deriving DecidableEq, Repr

namespace Axis

variable {α : Type} [Scalar α]

/-- The vector of length one along an axis. -/
def unit : Axis → Vec3 α
  | x => ⟨1, 0, 0⟩
  | y => ⟨0, 1, 0⟩
  | z => ⟨0, 0, 1⟩

end Axis

namespace Matrix3

variable {α : Type} [Scalar α]

/-- The right-handed turn about the unit vector `u` by an angle in radians. No angle at all is the
identity itself; every other entry is computed in full, the products with zero components too. -/
def turn (u : Vec3 α) (angle : α) : Matrix3 α :=
  if angle == 0 then 1
  else
    let s := Scalar.sin angle
    let c := Scalar.cos angle
    let k := 1 - c
    { row1 := ⟨u.x * u.x + (1 - u.x * u.x) * c, u.x * u.y * k - u.z * s, u.x * u.z * k + u.y * s⟩
      row2 := ⟨u.x * u.y * k + u.z * s, u.y * u.y + (1 - u.y * u.y) * c, u.y * u.z * k - u.x * s⟩
      row3 := ⟨u.x * u.z * k - u.y * s, u.y * u.z * k + u.x * s, u.z * u.z + (1 - u.z * u.z) * c⟩ }

/-- The right-handed turn about an axis by an angle in degrees. -/
def about (axis : Axis) (degrees : α) : Matrix3 α :=
  turn axis.unit (Scalar.radians degrees)

end Matrix3

/-- How an orbit lies in the heliocentric frame, in degrees. The periapsis frame, with the
periapsis along +X and the velocity there along +Z, is turned about Y by the longitude of the
ascending node, then about Z by the inclination, then about Y by the argument of periapsis. -/
structure Orientation (α : Type) where
  ascendingNode : α
  inclination : α
  argument : α
deriving BEq, DecidableEq, Repr

namespace Orientation

variable {α : Type} [Scalar α]

/-- The three turns in the order in which they are made. -/
def steps (o : Orientation α) : List (Matrix3 α) :=
  [.about .y o.ascendingNode, .about .z o.inclination, .about .y o.argument]

/-- The turns back: each angle negated, the last turn first. -/
def inverseSteps (o : Orientation α) : List (Matrix3 α) :=
  [.about .y (-o.argument), .about .z (-o.inclination), .about .y (-o.ascendingNode)]

/-- The one matrix that makes the three turns. -/
def rotation (o : Orientation α) : Matrix3 α :=
  .about .y o.argument * .about .z o.inclination * .about .y o.ascendingNode

def inverse (o : Orientation α) : Matrix3 α :=
  o.rotation.transpose

/-- From the periapsis frame into the heliocentric frame, in one product. -/
def apply (o : Orientation α) (v : Vec3 α) : Vec3 α :=
  o.rotation * v

/-- The same, one turn after another. -/
def applyInSteps (o : Orientation α) (v : Vec3 α) : Vec3 α :=
  o.steps.foldl (fun w turn => turn * w) v

/-- From the heliocentric frame back into the periapsis frame, one turn after another. -/
def undoInSteps (o : Orientation α) (v : Vec3 α) : Vec3 α :=
  o.inverseSteps.foldl (fun w turn => turn * w) v

end Orientation

end Periapsis
