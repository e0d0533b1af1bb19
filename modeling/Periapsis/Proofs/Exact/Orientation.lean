import Periapsis.Proofs.Exact.State

/-!
# Exact orientations

How turns over the real numbers go back and add up. The turn by the opposite
angle is the transposed one where sine is odd and cosine even (`turn_neg`), and
turns about one axis add their angles where sine and cosine follow the laws of
addition (`turn_add`), on either branch of a turn.

* `undo_inSteps`: the turns back come to the transposed matrix, and both take an
  orientation back, whichever is done first;
* `rotation_flat`: without an inclination an orientation is one turn.
-/

namespace Periapsis

open Matrix Scalar

variable {f : Circular}

/-! ## Turns back -/

/-- Sine is odd and cosine is even. -/
structure Circular.Parity (f : Circular) : Prop where
  sin_neg : ∀ angle, f.sin (-angle) = -f.sin angle
  cos_neg : ∀ angle, f.cos (-angle) = f.cos angle

theorem axial_transpose (x y z s c : ℝ) : (axial x y z s c)ᵀ = axial x y z (-s) c := by
  ext i j
  fin_cases i <;> fin_cases j <;> simp [axial, sub_eq_add_neg]

namespace Matrix3

theorem toMatrix_transpose (m : Matrix3 (Exact f)) : m.transpose.toMatrix = m.toMatrixᵀ := by
  ext i j
  fin_cases i <;> fin_cases j <;> rfl

theorem transpose_mul (m n : Matrix3 (Exact f)) :
    (m * n).transpose = n.transpose * m.transpose :=
  toMatrix_injective <| by simp only [toMatrix_transpose, toMatrix_mul, Matrix.transpose_mul]

theorem transpose_one : (1 : Matrix3 (Exact f)).transpose = 1 :=
  rfl

/-- A product is transposed by its factors, the last one first. -/
theorem transpose_prod (steps : List (Matrix3 (Exact f))) :
    steps.prod.transpose = (steps.map transpose).reverse.prod := by
  induction steps with
  | nil => exact transpose_one
  | cons step steps ih =>
    rw [List.prod_cons, transpose_mul, ih, List.map_cons, List.reverse_cons, List.prod_append,
      List.prod_singleton]

/-- The turn by the opposite angle. No angle at all is its own opposite. -/
theorem turn_neg (parity : f.Parity) (u : Vec3 (Exact f)) (angle : Exact f) :
    turn u (-angle) = (turn u angle).transpose := by
  by_cases none : angle = 0
  · have opposite : -angle = 0 := none ▸ @neg_zero ℝ _
    rw [opposite, none, turn_zero, transpose_one]
  · have opposite : -angle ≠ 0 := (@neg_ne_zero ℝ _ _).2 none
    apply toMatrix_injective
    calc (turn u (-angle)).toMatrix
      _ = axial u.x u.y u.z (f.sin (-angle)) (f.cos (-angle)) :=
        toMatrix_turn_of_ne_zero u opposite
      _ = axial u.x u.y u.z (-f.sin angle) (f.cos angle) :=
        congrArg₂ _ (parity.sin_neg angle) (parity.cos_neg angle)
      _ = (axial u.x u.y u.z (f.sin angle) (f.cos angle))ᵀ := (axial_transpose ..).symm
      _ = (turn u angle).transpose.toMatrix := by
        rw [toMatrix_transpose, toMatrix_turn_of_ne_zero u none]

theorem radians_neg (degrees : Exact f) : radians (-degrees) = -radians degrees :=
  have real : ∀ a b : ℝ, -a * b = -(a * b) := neg_mul
  real degrees _

theorem about_neg (parity : f.Parity) (axis : Axis) (degrees : Exact f) :
    about axis (-degrees) = (about axis degrees).transpose := by
  rw [about, radians_neg, turn_neg parity, about]

end Matrix3

namespace Orientation

/-- The turns back are the turns transposed, the last one first. -/
theorem inverseSteps_eq (parity : f.Parity) (o : Orientation (Exact f)) :
    o.inverseSteps = (o.steps.map Matrix3.transpose).reverse := by
  simp only [inverseSteps, steps, Matrix3.about_neg parity, List.map_cons, List.map_nil,
    List.reverse_cons, List.reverse_nil, List.nil_append, List.cons_append]

theorem prod_inverseSteps (parity : f.Parity) (o : Orientation (Exact f)) :
    o.inverseSteps.reverse.prod = o.inverse := by
  rw [inverse, ← prod_steps, Matrix3.transpose_prod, inverseSteps_eq parity, List.map_reverse]

/-- The transposed matrix takes an orientation back on either side. -/
theorem inverse_mul_rotation (circle : f.OnCircle) (o : Orientation (Exact f)) :
    o.inverse * o.rotation = 1 ∧ o.rotation * o.inverse = 1 := by
  have member := (mem_specialOrthogonalGroup_iff.1 (o.toMatrix_rotation_mem circle)).1
  constructor <;> apply Matrix3.toMatrix_injective <;>
    rw [Matrix3.toMatrix_mul, inverse, Matrix3.toMatrix_transpose, Matrix3.toMatrix_one]
  · exact (mem_orthogonalGroup_iff' ..).1 member
  · exact (mem_orthogonalGroup_iff ..).1 member

theorem undoInSteps_eq (parity : f.Parity) (o : Orientation (Exact f)) (v : Vec3 (Exact f)) :
    o.undoInSteps v = o.inverse * v := by
  rw [undoInSteps, Matrix3.foldl_mul_vec, prod_inverseSteps parity]

end Orientation

/-- The turns of an orientation are taken back by the turns with the opposite
angles in the opposite order, and by the transposed matrix, which is the product of
those, whichever of the angles are zero. -/
theorem undo_inSteps (circle : f.OnCircle) (parity : f.Parity) (o : Orientation (Exact f)) :
    o.inverseSteps.reverse.prod = o.inverse ∧
      ∀ v, o.undoInSteps (o.applyInSteps v) = v ∧ o.applyInSteps (o.undoInSteps v) = v ∧
        o.inverse * o.apply v = v := by
  obtain ⟨left, right⟩ := o.inverse_mul_rotation circle
  have back (v : Vec3 (Exact f)) : o.inverse * o.apply v = v := by
    rw [Orientation.apply, ← Matrix3.mul_mul_vec, left, Matrix3.one_mul_vec]
  have forth (v : Vec3 (Exact f)) : o.apply (o.inverse * v) = v := by
    rw [Orientation.apply, ← Matrix3.mul_mul_vec, right, Matrix3.one_mul_vec]
  refine ⟨o.prod_inverseSteps parity, fun v => ⟨?_, ?_, back v⟩⟩
  · rw [o.undoInSteps_eq parity, ← o.apply_eq_applyInSteps, back]
  · rw [o.undoInSteps_eq parity, ← o.apply_eq_applyInSteps, forth]

theorem Circular.parity_degrees : Circular.degrees.Parity where
  sin_neg angle := by simp only [degrees, neg_div, neg_mul, Real.sin_neg]
  cos_neg angle := by simp only [degrees, neg_div, neg_mul, Real.cos_neg]

/-- The first of its turns is by no angle at all. -/
theorem undo_inSteps_upright :
    let o : Orientation (Exact .degrees) := upright.orientation
    Circular.degrees.OnCircle ∧ Circular.degrees.Parity ∧ o.inverseSteps.reverse.prod = o.inverse ∧
      ∀ v, o.undoInSteps (o.applyInSteps v) = v ∧ o.applyInSteps (o.undoInSteps v) = v ∧
        o.inverse * o.apply v = v :=
  ⟨Circular.onCircle_degrees, Circular.parity_degrees,
    undo_inSteps Circular.onCircle_degrees Circular.parity_degrees upright.orientation⟩

/-! ## Turns about one axis -/

/-- Sine and cosine follow the laws of addition. So do functions that are zero
everywhere, which are left out. -/
structure Circular.Additive (f : Circular) : Prop where
  sin_add : ∀ a b, f.sin (a + b) = f.sin a * f.cos b + f.cos a * f.sin b
  cos_add : ∀ a b, f.cos (a + b) = f.cos a * f.cos b - f.sin a * f.sin b
  nonzero : ∃ angle, f.cos angle ≠ 0

/-- Adding no angle at all changes nothing, which leaves no choice for it. -/
theorem Circular.Additive.atZero (laws : f.Additive) : f.AtZero := by
  obtain ⟨a, nonzero⟩ := laws.nonzero
  have sin := laws.sin_add a 0
  have cos := laws.cos_add a 0
  rw [add_zero] at sin cos
  have one : f.cos 0 = 1 := by
    have length : 0 < f.sin a * f.sin a + f.cos a * f.cos a :=
      add_pos_of_nonneg_of_pos (mul_self_nonneg _) (mul_self_pos.2 nonzero)
    have scaled : (f.sin a * f.sin a + f.cos a * f.cos a) * (f.cos 0 - 1) = 0 := by
      linear_combination -(f.sin a * sin + f.cos a * cos)
    linarith [(mul_eq_zero.1 scaled).resolve_left length.ne']
  rw [one, mul_one, left_eq_add] at sin
  exact ⟨(mul_eq_zero.1 sin).resolve_left nonzero, one⟩

theorem axial_mul {x y z s₁ c₁ s₂ c₂ : ℝ} (unit : x * x + y * y + z * z = 1) :
    axial x y z s₁ c₁ * axial x y z s₂ c₂ =
      axial x y z (s₁ * c₂ + c₁ * s₂) (c₁ * c₂ - s₁ * s₂) := by
  ext i j
  rw [Matrix.mul_apply, Fin.sum_univ_three]
  fin_cases i <;> fin_cases j <;> simp [axial] <;> grind

namespace Matrix3

/-- Turns about one unit vector, any of which may be by no angle at all. -/
theorem turn_add (laws : f.Additive) {u : Vec3 (Exact f)} (unit : u.dot u = 1)
    (a b : Exact f) : turn u (a + b) = turn u a * turn u b := by
  apply toMatrix_injective
  rw [toMatrix_mul, toMatrix_turn laws.atZero, toMatrix_turn laws.atZero, toMatrix_turn laws.atZero]
  exact (congrArg₂ _ (laws.sin_add a b) (laws.cos_add a b)).trans (axial_mul unit).symm

theorem radians_add (a b : Exact f) : radians (a + b) = radians a + radians b :=
  have real : ∀ a b c : ℝ, (a + b) * c = a * c + b * c := add_mul
  real a b _

theorem about_add (laws : f.Additive) (axis : Axis) (a b : Exact f) :
    about axis (a + b) = about axis a * about axis b := by
  rw [about, radians_add, turn_add laws (unit_dot_unit axis), about, about]

theorem about_zero (axis : Axis) : about axis (0 : Exact f) = 1 := by
  have real : ∀ a : ℝ, 0 * a = 0 := zero_mul
  have none : radians (0 : Exact f) = 0 := real _
  rw [about, none, turn_zero]

end Matrix3

/-- Without an inclination the two turns that are left are about the same axis and
make one turn, by the sum of their angles. Any of them and their sum may be zero. -/
theorem rotation_flat (laws : f.Additive) (node argument : Exact f) :
    (⟨node, 0, argument⟩ : Orientation (Exact f)).rotation = .about .y (node + argument) := by
  have sum : node + argument = argument + node := @add_comm ℝ _ node argument
  rw [Orientation.rotation, Matrix3.about_zero, mul_one, sum, Matrix3.about_add laws]

theorem Circular.additive_degrees : Circular.degrees.Additive where
  sin_add a b := by simp only [degrees, add_div, add_mul, Real.sin_add]
  cos_add a b := by simp only [degrees, add_div, add_mul, Real.cos_add]
  nonzero := ⟨0, by simp [degrees]⟩

/-- Two turns are made, and one that is none. -/
theorem rotation_flat_opposite :
    Circular.degrees.Additive ∧
      (⟨30.0, 0, -30.0⟩ : Orientation (Exact .degrees)).rotation = .about .y (30.0 + -30.0) ∧
      Matrix3.about .y (30.0 + -30.0 : Exact .degrees) = 1 := by
  have none : (30.0 : Exact .degrees) + -30.0 = 0 := @add_neg_cancel ℝ _ 30.0
  refine ⟨Circular.additive_degrees, rotation_flat Circular.additive_degrees 30.0 (-30.0), ?_⟩
  rw [none, Matrix3.about_zero]

end Periapsis
