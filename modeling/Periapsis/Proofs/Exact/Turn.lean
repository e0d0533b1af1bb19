import Mathlib.Analysis.SpecialFunctions.Trigonometric.Basic
import Periapsis.Proofs.Exact.Matrix

/-!
# Exact turns

Turns about an axis over the real numbers. The entries of a turn are those of
`axial`, which is a rotation for every unit vector and every point of the unit
circle (`axial_mem`). No angle at all has a branch of its own, where the turn is
the identity:

* `toMatrix_turn_mem`: every turn is a rotation, on either branch;
* `toMatrix_turn`: both branches are `axial` where no angle has sine zero and
  cosine one.
-/

namespace Periapsis

open Matrix

variable {f : Circular}

/-- Sine and cosine are the coordinates of points on the unit circle. -/
def Circular.OnCircle (f : Circular) : Prop :=
  ∀ angle, f.sin angle * f.sin angle + f.cos angle * f.cos angle = 1

/-- No angle at all has sine zero and cosine one. -/
structure Circular.AtZero (f : Circular) : Prop where
  sin : f.sin 0 = 0
  cos : f.cos 0 = 1

/-- The turn about `(x, y, z)` by an angle with sine `s` and cosine `c`. -/
def axial (x y z s c : ℝ) : Matrix (Fin 3) (Fin 3) ℝ :=
  !![x * x + (1 - x * x) * c, x * y * (1 - c) - z * s, x * z * (1 - c) + y * s;
    x * y * (1 - c) + z * s, y * y + (1 - y * y) * c, y * z * (1 - c) - x * s;
    x * z * (1 - c) - y * s, y * z * (1 - c) + x * s, z * z + (1 - z * z) * c]

theorem axial_zero (x y z : ℝ) : axial x y z 0 1 = 1 := by
  ext i j
  fin_cases i <;> fin_cases j <;> simp [axial]

/-- A turn about a unit vector by a point of the unit circle is a rotation. -/
theorem axial_mem {x y z s c : ℝ} (unit : x * x + y * y + z * z = 1) (circle : s * s + c * c = 1) :
    axial x y z s c ∈ specialOrthogonalGroup (Fin 3) ℝ := by
  rw [mem_specialOrthogonalGroup_iff, mem_orthogonalGroup_iff]
  constructor
  -- Each entry and the determinant are polynomials that the two equations reduce.
  · ext i j
    rw [Matrix.mul_apply, Fin.sum_univ_three]
    fin_cases i <;> fin_cases j <;> simp [axial] <;> grind
  · rw [Matrix.det_fin_three]
    simp [axial]
    grind

/-! ## Turns about an axis -/

theorem exact_beq_eq_true_iff (a b : Exact f) : (a == b) = true ↔ a = b :=
  have real : ∀ a b : ℝ, decide (a = b) = true ↔ a = b := fun _ _ => decide_eq_true_iff
  real a b

namespace Matrix3

theorem toMatrix_turn_of_ne_zero (u : Vec3 (Exact f)) {angle : Exact f} (h : angle ≠ 0) :
    (turn u angle).toMatrix = axial u.x u.y u.z (f.sin angle) (f.cos angle) := by
  rw [turn, if_neg (mt (exact_beq_eq_true_iff angle 0).1 h)]
  rfl

theorem turn_zero (u : Vec3 (Exact f)) : turn u 0 = 1 :=
  if_pos ((exact_beq_eq_true_iff 0 0).2 rfl)

/-- A turn is a rotation, whether it is by no angle or not. -/
theorem toMatrix_turn_mem (circle : f.OnCircle) {u : Vec3 (Exact f)} (unit : u.dot u = 1)
    (angle : Exact f) : (turn u angle).toMatrix ∈ specialOrthogonalGroup (Fin 3) ℝ := by
  by_cases none : angle = 0
  · rw [none, turn_zero, toMatrix_one]
    exact one_mem _
  · rw [toMatrix_turn_of_ne_zero u none]
    exact axial_mem unit (circle angle)

/-- Where sine and cosine are what they should be at zero, no angle is no exception. -/
theorem toMatrix_turn (zero : f.AtZero) (u : Vec3 (Exact f)) (angle : Exact f) :
    (turn u angle).toMatrix = axial u.x u.y u.z (f.sin angle) (f.cos angle) := by
  by_cases none : angle = 0
  · rw [none, turn_zero, toMatrix_one, ← axial_zero, ← zero.sin, ← zero.cos]
    rfl
  · exact toMatrix_turn_of_ne_zero u none

theorem unit_dot_unit (axis : Axis) : (axis.unit : Vec3 (Exact f)).dot axis.unit = 1 := by
  have sums : (1 : ℝ) * 1 + 0 * 0 + 0 * 0 = 1 ∧ (0 : ℝ) * 0 + 1 * 1 + 0 * 0 = 1 ∧
      (0 : ℝ) * 0 + 0 * 0 + 1 * 1 = 1 := by norm_num
  cases axis with
  | x => exact sums.1
  | y => exact sums.2.1
  | z => exact sums.2.2

theorem toMatrix_about_mem (circle : f.OnCircle) (axis : Axis) (degrees : Exact f) :
    (about axis degrees).toMatrix ∈ specialOrthogonalGroup (Fin 3) ℝ :=
  toMatrix_turn_mem circle (unit_dot_unit axis) _

end Matrix3

/-! ## Angles in degrees -/

/-- The sine of an angle in degrees. -/
def Scalar.sine {α : Type} [Scalar α] (degrees : α) : α :=
  Scalar.sin (Scalar.radians degrees)

/-- The cosine of an angle in degrees. -/
def Scalar.cosine {α : Type} [Scalar α] (degrees : α) : α :=
  Scalar.cos (Scalar.radians degrees)

/-- Sine and cosine of the real numbers, for angles whose radians come of degrees by
the factor of `Scalar.radians` in place of π/180. -/
noncomputable def Circular.degrees : Circular where
  sin angle := Real.sin (angle / 0.017453292519943295 * (Real.pi / 180))
  cos angle := Real.cos (angle / 0.017453292519943295 * (Real.pi / 180))

namespace Circular

theorem onCircle_degrees : degrees.OnCircle := fun angle => by
  rw [← sq, ← sq]
  exact Real.sin_sq_add_cos_sq _

theorem atZero_degrees : degrees.AtZero where
  sin := by simp [degrees]
  cos := by simp [degrees]

theorem sine_degrees (a : ℝ) :
    Scalar.sine (α := Exact degrees) a = Real.sin (a * (Real.pi / 180)) := by
  show Real.sin (a * 0.017453292519943295 / 0.017453292519943295 * (Real.pi / 180)) = _
  rw [mul_div_cancel_right₀ a (by norm_num)]

theorem cosine_degrees (a : ℝ) :
    Scalar.cosine (α := Exact degrees) a = Real.cos (a * (Real.pi / 180)) := by
  show Real.cos (a * 0.017453292519943295 / 0.017453292519943295 * (Real.pi / 180)) = _
  rw [mul_div_cancel_right₀ a (by norm_num)]

end Circular

namespace Matrix3

open Scalar

theorem toMatrix_about_y (zero : f.AtZero) (degrees : Exact f) : (about .y degrees).toMatrix =
    axial 0 1 0 (sine degrees : Exact f) (cosine degrees : Exact f) :=
  toMatrix_turn zero ..

theorem toMatrix_about_z (zero : f.AtZero) (degrees : Exact f) : (about .z degrees).toMatrix =
    axial 0 0 1 (sine degrees : Exact f) (cosine degrees : Exact f) :=
  toMatrix_turn zero ..

end Matrix3

end Periapsis
