import Periapsis.Scalar

/-!
# Vectors and matrices

Vectors of three components and square matrices of three rows. Every entry of a product is one
`Vec3.dot`, which adds its three terms from the left.
-/

namespace Periapsis

/-- Three components along the axes of a right-handed frame. -/
structure Vec3 (α : Type) where
  x : α
  y : α
  z : α
deriving BEq, DecidableEq, Repr

namespace Vec3

variable {α : Type} [Scalar α]

instance : Zero (Vec3 α) := ⟨⟨0, 0, 0⟩⟩

instance : Add (Vec3 α) := ⟨fun v w => ⟨v.x + w.x, v.y + w.y, v.z + w.z⟩⟩

instance : Neg (Vec3 α) := ⟨fun v => ⟨-v.x, -v.y, -v.z⟩⟩

instance : HMul (Vec3 α) α (Vec3 α) := ⟨fun v a => ⟨v.x * a, v.y * a, v.z * a⟩⟩

instance : HDiv (Vec3 α) α (Vec3 α) := ⟨fun v a => ⟨v.x / a, v.y / a, v.z / a⟩⟩

def dot (v w : Vec3 α) : α :=
  v.x * w.x + v.y * w.y + v.z * w.z

/-- The length of a vector. The squares are taken without scaling, so that of doubles it overflows
or vanishes where the square of the length does. -/
def magnitude (v : Vec3 α) : α :=
  Scalar.sqrt (v.dot v)

end Vec3

/-- A square matrix by its rows. -/
structure Matrix3 (α : Type) where
  row1 : Vec3 α
  row2 : Vec3 α
  row3 : Vec3 α
deriving BEq, DecidableEq, Repr

namespace Matrix3

variable {α : Type}

def transpose (m : Matrix3 α) : Matrix3 α where
  row1 := ⟨m.row1.x, m.row2.x, m.row3.x⟩
  row2 := ⟨m.row1.y, m.row2.y, m.row3.y⟩
  row3 := ⟨m.row1.z, m.row2.z, m.row3.z⟩

variable [Scalar α]

instance : One (Matrix3 α) := ⟨⟨⟨1, 0, 0⟩, ⟨0, 1, 0⟩, ⟨0, 0, 1⟩⟩⟩

instance : HMul (Matrix3 α) (Vec3 α) (Vec3 α) :=
  ⟨fun m v => ⟨m.row1.dot v, m.row2.dot v, m.row3.dot v⟩⟩

instance : Mul (Matrix3 α) where
  mul m n :=
    let columns := n.transpose
    let row (r : Vec3 α) : Vec3 α := ⟨r.dot columns.row1, r.dot columns.row2, r.dot columns.row3⟩
    ⟨row m.row1, row m.row2, row m.row3⟩

end Matrix3

end Periapsis
