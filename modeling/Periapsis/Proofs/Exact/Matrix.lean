import Mathlib.LinearAlgebra.UnitaryGroup
import Mathlib.Tactic.FinCases
import Periapsis.Proofs.Exact
import Periapsis.Rotation

/-!
# Exact vectors and matrices

Vectors and matrices of exact numbers as those of linear algebra
(`Vec3.components`, `Matrix3.toMatrix`), where all products are the usual ones. So
matrices of exact numbers multiply as a monoid, and a vector that is multiplied
with one matrix after another is multiplied with their product
(`foldl_mul_vec`).
-/

namespace Periapsis

open Matrix

variable {f : Circular}

/-- A matrix by the indices of its entries. -/
def Matrix3.toMatrix (m : Matrix3 (Exact f)) : Matrix (Fin 3) (Fin 3) ℝ :=
  .of ![m.row1.components, m.row2.components, m.row3.components]

theorem Vec3.dot_eq_dotProduct (v w : Vec3 (Exact f)) : v.dot w = v.components ⬝ᵥ w.components :=
  (Fin.sum_univ_three fun i => v.components i * w.components i).symm

namespace Matrix3

theorem toMatrix_injective : Function.Injective (toMatrix (f := f)) := by
  intro m n same
  have row (i : Fin 3) : m.toMatrix i = n.toMatrix i := congrFun same i
  obtain ⟨m1, m2, m3⟩ := m
  obtain ⟨n1, n2, n3⟩ := n
  exact (mk.injEq ..).mpr ⟨Vec3.components_injective (row 0), Vec3.components_injective (row 1),
    Vec3.components_injective (row 2)⟩

theorem toMatrix_one : (1 : Matrix3 (Exact f)).toMatrix = 1 := by
  ext i j
  fin_cases i <;> fin_cases j <;> rfl

theorem toMatrix_mul (m n : Matrix3 (Exact f)) : (m * n).toMatrix = m.toMatrix * n.toMatrix := by
  ext i j
  rw [Matrix.mul_apply, Fin.sum_univ_three]
  fin_cases i <;> fin_cases j <;> rfl

theorem components_mul (m : Matrix3 (Exact f)) (v : Vec3 (Exact f)) :
    (m * v).components = m.toMatrix *ᵥ v.components := by
  ext i
  rw [Matrix.mulVec, dotProduct, Fin.sum_univ_three]
  fin_cases i <;> rfl

noncomputable instance : Monoid (Matrix3 (Exact f)) where
  mul_assoc l m n := toMatrix_injective <| by simp only [toMatrix_mul, Matrix.mul_assoc]
  one_mul m := toMatrix_injective <| by rw [toMatrix_mul, toMatrix_one, Matrix.one_mul]
  mul_one m := toMatrix_injective <| by rw [toMatrix_mul, toMatrix_one, Matrix.mul_one]

theorem one_mul_vec (v : Vec3 (Exact f)) : (1 : Matrix3 (Exact f)) * v = v :=
  Vec3.components_injective <| by rw [components_mul, toMatrix_one, Matrix.one_mulVec]

theorem mul_mul_vec (m n : Matrix3 (Exact f)) (v : Vec3 (Exact f)) : m * n * v = m * (n * v) :=
  Vec3.components_injective <| by
    simp only [components_mul, toMatrix_mul, Matrix.mulVec_mulVec]

/-- What is multiplied with one matrix after another is multiplied with their
product, the last of them in front. -/
theorem foldl_mul_vec (steps : List (Matrix3 (Exact f))) (v : Vec3 (Exact f)) :
    steps.foldl (fun w step => step * w) v = steps.reverse.prod * v := by
  induction steps generalizing v with
  | nil => exact (one_mul_vec v).symm
  | cons step steps ih =>
    rw [List.foldl_cons, ih, ← mul_mul_vec, List.reverse_cons, List.prod_append,
      List.prod_singleton]

end Matrix3

end Periapsis
