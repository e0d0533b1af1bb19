import Periapsis.Proofs.Body
import Periapsis.Proofs.Exact.Turn

/-!
# Exact states

Orientations and heliocentric states over the real numbers.

* `state_inSteps`: one matrix and one turn after another come to the same, and
  fail on the same bodies;
* `rotation_proper`: every orientation is a rotation, so the state of a body has
  the distance, the speed and the right angle that it has at the periapsis;
* `state_closedForm`: its components, by sines and cosines of the three angles.
-/

namespace Periapsis

open Matrix Scalar

variable {f : Circular}

/-! ## One turn after another -/

namespace Orientation

/-- The one matrix of an orientation is the product of its turns, the last of them in front. -/
theorem prod_steps (o : Orientation (Exact f)) : o.steps.reverse.prod = o.rotation := by
  simp only [steps, rotation, List.reverse_cons, List.reverse_nil, List.nil_append,
    List.cons_append, List.prod_cons, List.prod_nil, mul_one, mul_assoc]

theorem apply_eq_applyInSteps (o : Orientation (Exact f)) (v : Vec3 (Exact f)) :
    o.apply v = o.applyInSteps v := by
  rw [applyInSteps, Matrix3.foldl_mul_vec, prod_steps, apply]

end Orientation

theorem Body.state_eq_stateInSteps (b : Body (Exact f)) (id : String) :
    b.state id = b.stateInSteps id := by
  rw [stateInSteps, ← Orientation.apply_eq_applyInSteps, ← Orientation.apply_eq_applyInSteps]
  rfl

/-- A state through the one matrix and a state through one turn after another fail
on the same bodies with the same failure, in whatever arithmetic. In exact
arithmetic they are the same whenever there is one, as are all vectors turned
either way. -/
theorem state_inSteps :
    (∀ {α : Type} [Scalar α] (id : String) (b : Body α) (failure : Failure α),
      (b.state id = .error failure ↔ b.stateInSteps id = .error failure) ∧
      (b.state id = .error failure ↔ ∃ field value, b.offence? = some (field, value) ∧
        failure = .invalidField id field value)) ∧
    (∀ {f : Circular} (id : String) (b : Body (Exact f)),
      ((∃ s, b.state id = .ok s) ↔ b.offence? = none) ∧ b.state id = b.stateInSteps id) ∧
    ∀ {f : Circular} (o : Orientation (Exact f)) (v : Vec3 (Exact f)),
      o.apply v = o.applyInSteps v := by
  refine ⟨fun id b failure => ⟨?_, Body.checked_eq_error_iff ..⟩,
    fun id b => ⟨⟨?_, fun physical => Body.exists_state physical id⟩, b.state_eq_stateInSteps id⟩,
    Orientation.apply_eq_applyInSteps⟩
  · rw [Body.state, Body.stateInSteps, Body.checked_eq_error_iff, Body.checked_eq_error_iff]
  · rintro ⟨s, computed⟩
    exact ((Body.checked_eq_ok_iff ..).1 computed).1

/-! ## Lengths -/

namespace Orientation

theorem toMatrix_rotation_mem (circle : f.OnCircle) (o : Orientation (Exact f)) :
    o.rotation.toMatrix ∈ specialOrthogonalGroup (Fin 3) ℝ := by
  rw [rotation, Matrix3.toMatrix_mul, Matrix3.toMatrix_mul]
  exact mul_mem (mul_mem (Matrix3.toMatrix_about_mem circle ..)
    (Matrix3.toMatrix_about_mem circle ..)) (Matrix3.toMatrix_about_mem circle ..)

/-- Turning two vectors keeps their product. -/
theorem dot_apply (circle : f.OnCircle) (o : Orientation (Exact f)) (v w : Vec3 (Exact f)) :
    (o.apply v).dot (o.apply w) = v.dot w := by
  have inverse := (mem_specialOrthogonalGroup_iff.1 (o.toMatrix_rotation_mem circle)).1
  rw [mem_orthogonalGroup_iff'] at inverse
  have back : o.rotation.toMatrixᵀ *ᵥ (o.rotation.toMatrix *ᵥ v.components) = v.components := by
    rw [mulVec_mulVec, inverse, one_mulVec]
  rw [apply, apply, Vec3.dot_eq_dotProduct, Vec3.dot_eq_dotProduct, Matrix3.components_mul,
    Matrix3.components_mul, dotProduct_mulVec, ← mulVec_transpose, back]

end Orientation

namespace Body

theorem nonneg_of_isMagnitude {a : Exact f} (h : isMagnitude a = true) : 0 ≤ a := by
  rw [isMagnitude, Bool.and_eq_true, Bool.not_eq_true', decide_eq_false_iff_not] at h
  exact @le_of_not_gt ℝ _ _ _ h.2

/-- A physical body is turned from the frame of its own orbit. -/
theorem state_eq_ok {b : Body (Exact f)} (physical : b.offence? = none) (id : String) :
    b.state id = .ok ⟨b.orientation.apply b.periapsisState.position,
      b.orientation.apply b.periapsisState.velocity⟩ :=
  (checked_eq_ok_iff ..).2 ⟨physical, rfl⟩

theorem dot_periapsisState (b : Body (Exact f)) :
    b.periapsisState.position.dot b.periapsisState.position = b.periapsis * b.periapsis ∧
      b.periapsisState.velocity.dot b.periapsisState.velocity = b.speed * b.speed ∧
      b.periapsisState.position.dot b.periapsisState.velocity = 0 := by
  have sums (p v : ℝ) : p * p + 0 * 0 + 0 * 0 = p * p ∧ 0 * 0 + 0 * 0 + v * v = v * v ∧
      p * 0 + 0 * 0 + 0 * v = 0 := by
    refine ⟨?_, ?_, ?_⟩ <;> ring
  exact sums b.periapsis b.speed

end Body

theorem Vec3.magnitude_of_dot {v : Vec3 (Exact f)} {a : Exact f} (h : 0 ≤ a)
    (square : v.dot v = a * a) : v.magnitude = a := by
  rw [magnitude, square]
  exact Real.sqrt_mul_self h

/-- The orientation of an orbit is a proper rotation, whatever its angles and
whichever of them are zero: it keeps all products of vectors, and it has the
determinant one. So a physical body is as far away and as fast as is given of it,
and it moves at a right angle to the line to the Sun. -/
theorem rotation_proper (circle : f.OnCircle) :
    (∀ o : Orientation (Exact f), o.rotation.toMatrix.det = 1 ∧
      ∀ v w, (o.apply v).dot (o.apply w) = v.dot w) ∧
    ∀ (id : String) (b : Body (Exact f)), b.offence? = none →
      ∃ s, b.state id = .ok s ∧ s.position.magnitude = b.periapsis ∧
        s.velocity.magnitude = b.speed ∧ s.position.dot s.velocity = 0 := by
  refine ⟨fun o => ⟨?_, o.dot_apply circle⟩,
    fun id b physical => ⟨_, b.state_eq_ok physical id, ?_⟩⟩
  · exact (mem_specialOrthogonalGroup_iff.1 (o.toMatrix_rotation_mem circle)).2
  · obtain ⟨-, periapsis, speed⟩ := Body.isMagnitude_of_offence? physical
    obtain ⟨distance, motion, perpendicular⟩ := b.dot_periapsisState
    refine ⟨Vec3.magnitude_of_dot (Body.nonneg_of_isMagnitude periapsis) ?_,
      Vec3.magnitude_of_dot (Body.nonneg_of_isMagnitude speed) ?_, ?_⟩
    · rw [Orientation.dot_apply circle, distance]
    · rw [Orientation.dot_apply circle, motion]
    · rw [Orientation.dot_apply circle, perpendicular]

/-- An orbit that is upright, with its nodes where its frame has them. -/
def upright {α : Type} [Scalar α] : Body α where
  mass := 1
  periapsis := 2.0
  speed := 2.0
  orientation := { ascendingNode := 0, inclination := 90.0, argument := 30.0 }
  radius := none
  color := none

theorem offence?_upright : (upright : Body (Exact f)).offence? = none := by
  have one : (0 : ℝ) ≤ 1 := by norm_num
  have two : (0 : ℝ) ≤ 2.0 := by norm_num
  have magnitudes : Body.isMagnitude (1 : Exact f) = true ∧
      Body.isMagnitude (2.0 : Exact f) = true :=
    ⟨isMagnitude_of_nonneg one, isMagnitude_of_nonneg two⟩
  simp [upright, Body.offence?, Body.checks, magnitudes, Scalar.isFinite]

theorem rotation_proper_upright :
    let b : Body (Exact .degrees) := upright
    Circular.degrees.OnCircle ∧ b.offence? = none ∧ b.orientation.rotation.toMatrix.det = 1 ∧
      ∃ s, b.state "upright" = .ok s ∧ s.position.magnitude = 2.0 ∧ s.velocity.magnitude = 2.0 ∧
        s.position.dot s.velocity = 0 :=
  have proper := rotation_proper Circular.onCircle_degrees
  ⟨Circular.onCircle_degrees, offence?_upright, (proper.1 _).1,
    proper.2 "upright" _ offence?_upright⟩

/-! ## Components -/

/-- What lies along the first axis picks the first column of a matrix. -/
theorem mulVec_along_x (m : Matrix (Fin 3) (Fin 3) ℝ) (a : ℝ) :
    m *ᵥ ![a, 0, 0] = ![a * m 0 0, a * m 1 0, a * m 2 0] := by
  ext i
  rw [Matrix.mulVec, dotProduct, Fin.sum_univ_three]
  fin_cases i <;> simp [mul_comm]

/-- What lies along the third axis picks the third column of a matrix. -/
theorem mulVec_along_z (m : Matrix (Fin 3) (Fin 3) ℝ) (a : ℝ) :
    m *ᵥ ![0, 0, a] = ![a * m 0 2, a * m 1 2, a * m 2 2] := by
  ext i
  rw [Matrix.mulVec, dotProduct, Fin.sum_univ_three]
  fin_cases i <;> simp [mul_comm]

/-- Three turns as those of an orientation, multiplied out. -/
theorem axial_product (sw cw si ci sn cn : ℝ) :
    axial 0 1 0 sw cw * axial 0 0 1 si ci * axial 0 1 0 sn cn =
      !![cw * ci * cn - sw * sn, -(cw * si), cw * ci * sn + sw * cn;
        si * cn, ci, si * sn;
        -sw * ci * cn - cw * sn, sw * si, -sw * ci * sn + cw * cn] := by
  ext i j
  simp only [Matrix.mul_apply, Fin.sum_univ_three]
  fin_cases i <;> fin_cases j <;> simp [axial] <;> ring

/-- The matrix of an orientation, whichever of its angles are zero. -/
theorem Orientation.toMatrix_rotation (zero : f.AtZero) (o : Orientation (Exact f)) :
    o.rotation.toMatrix =
      axial 0 1 0 (sine o.argument : Exact f) (cosine o.argument : Exact f) *
        axial 0 0 1 (sine o.inclination : Exact f) (cosine o.inclination : Exact f) *
        axial 0 1 0 (sine o.ascendingNode : Exact f) (cosine o.ascendingNode : Exact f) := by
  simp only [rotation, Matrix3.toMatrix_mul, Matrix3.toMatrix_about_y zero,
    Matrix3.toMatrix_about_z zero]

/-- In exact arithmetic the state of every physical body is known in closed form,
from its distance and its speed at periapsis and the sines and cosines of its
three angles, any of which may be zero. -/
theorem state_closedForm (zero : f.AtZero) {b : Body (Exact f)} (physical : b.offence? = none)
    (id : String) :
    let p := b.periapsis
    let v := b.speed
    let sinN := sine b.orientation.ascendingNode
    let cosN := cosine b.orientation.ascendingNode
    let sinI := sine b.orientation.inclination
    let cosI := cosine b.orientation.inclination
    let sinW := sine b.orientation.argument
    let cosW := cosine b.orientation.argument
    b.state id = .ok {
      position := ⟨p * (cosW * cosI * cosN - sinW * sinN), p * (sinI * cosN),
        p * (-sinW * cosI * cosN - cosW * sinN)⟩
      velocity := ⟨v * (cosW * cosI * sinN + sinW * cosN), v * (sinI * sinN),
        v * (-sinW * cosI * sinN + cosW * cosN)⟩ } := by
  have matrix := (b.orientation.toMatrix_rotation zero).trans (axial_product ..)
  rw [b.state_eq_ok physical]
  refine congrArg Except.ok (congrArg₂ State.mk ?_ ?_) <;> apply Vec3.components_injective
  · rw [Orientation.apply, Matrix3.components_mul, matrix]
    exact mulVec_along_x ..
  · rw [Orientation.apply, Matrix3.components_mul, matrix]
    exact mulVec_along_z ..

/-- The first of its turns is by no angle at all. -/
theorem state_upright :
    let b : Body (Exact .degrees) := upright
    Circular.degrees.AtZero ∧ b.offence? = none ∧
      b.state "upright" = .ok ⟨⟨0, (2 : ℝ), 0⟩, ⟨(1 : ℝ), 0, √3⟩⟩ := by
  refine ⟨Circular.atZero_degrees, offence?_upright,
    (state_closedForm Circular.atZero_degrees offence?_upright "upright").trans ?_⟩
  let o : Orientation (Exact .degrees) := (upright : Body (Exact .degrees)).orientation
  have node : sine o.ascendingNode = (0 : ℝ) ∧ cosine o.ascendingNode = (1 : ℝ) := by
    have angle : (0 : ℝ) * (Real.pi / 180) = 0 := zero_mul _
    exact ⟨(Circular.sine_degrees 0).trans (by rw [angle, Real.sin_zero]),
      (Circular.cosine_degrees 0).trans (by rw [angle, Real.cos_zero])⟩
  have inclination : sine o.inclination = (1 : ℝ) ∧ cosine o.inclination = (0 : ℝ) := by
    have angle : (90.0 : ℝ) * (Real.pi / 180) = Real.pi / 2 := by norm_num; ring
    exact ⟨(Circular.sine_degrees 90.0).trans (by rw [angle, Real.sin_pi_div_two]),
      (Circular.cosine_degrees 90.0).trans (by rw [angle, Real.cos_pi_div_two])⟩
  have argument : sine o.argument = (1 / 2 : ℝ) ∧ cosine o.argument = (√3 / 2 : ℝ) := by
    have angle : (30.0 : ℝ) * (Real.pi / 180) = Real.pi / 6 := by norm_num; ring
    exact ⟨(Circular.sine_degrees 30.0).trans (by rw [angle, Real.sin_pi_div_six]),
      (Circular.cosine_degrees 30.0).trans (by rw [angle, Real.cos_pi_div_six])⟩
  have position : (2.0 : ℝ) * (√3 / 2 * 0 * 1 - 1 / 2 * 0) = 0 ∧ (2.0 : ℝ) * (1 * 1) = 2 ∧
      (2.0 : ℝ) * (-(1 / 2) * 0 * 1 - √3 / 2 * 0) = 0 := by norm_num
  have velocity : (2.0 : ℝ) * (√3 / 2 * 0 * 0 + 1 / 2 * 1) = 1 ∧ (2.0 : ℝ) * (1 * 0) = 0 ∧
      (2.0 : ℝ) * (-(1 / 2) * 0 * 0 + √3 / 2 * 1) = √3 := by
    refine ⟨?_, ?_, ?_⟩ <;> norm_num [mul_div_cancel₀]
  rw [node.1, node.2, inclination.1, inclination.2, argument.1, argument.2]
  exact congrArg Except.ok (congrArg₂ State.mk
    (Vec3.exact_ext position.1 position.2.1 position.2.2)
    (Vec3.exact_ext velocity.1 velocity.2.1 velocity.2.2))

end Periapsis
