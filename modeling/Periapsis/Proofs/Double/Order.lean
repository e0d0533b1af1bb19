import Periapsis.Proofs.Double.Arithmetic

/-!
# Order of doubles

Doubles are compared by what they unpack to (`le_iff`, `lt_iff`): first by their
kinds, then by their exponents and mantissas, which for positive doubles is the
order of their values (`not_le_of_within`). A double that is no number is not
comparable, so that only of finite ones the opposite of being below zero is being
at least zero (`not_lt_zero_iff`).
-/

namespace Periapsis.Double

open Float.Model Float.Model.UnpackedFloat

theorem le_iff (x y : Float) : x ≤ y ↔ x.toModel.unpack.le y.toModel.unpack = true :=
  decide_eq_true_iff

theorem lt_iff (x y : Float) : x < y ↔ x.toModel.unpack.lt y.toModel.unpack = true :=
  decide_eq_true_iff

theorem unpack_zero : (0 : Float).toModel.unpack = .zero .positive :=
  rfl

theorem not_lt_zero_iff {x : Float} (finite : x.isFinite = true) : ¬ x < 0 ↔ 0 ≤ x := by
  replace finite : x.toModel.unpack.isFinite = true := finite
  rw [lt_iff, le_iff, unpack_zero]
  cases hu : x.toModel.unpack with
  | notANumber | infinity => rw [hu] at finite; cases finite
  | zero s => simp [UnpackedFloat.lt, UnpackedFloat.le, UnpackedFloat.compare]
  | finite s m e positive =>
    cases s <;> simp [UnpackedFloat.lt, UnpackedFloat.le, UnpackedFloat.compare]

/-- Of two doubles the larger one has the larger exponent, or the larger mantissa. -/
theorem Canonical.lt_of_mul_lt {m₁ m₂ : ℕ} {e₁ e₂ : ℤ} (h₁ : Canonical m₁ e₁)
    (h₂ : Canonical m₂ e₂) (lt : (m₁ : ℚ) * 2 ^ e₁ < m₂ * 2 ^ e₂) :
    e₁ < e₂ ∨ e₁ = e₂ ∧ m₁ < m₂ := by
  rcases lt_trichotomy e₁ e₂ with less | rfl | more
  · exact .inl less
  · refine .inr ⟨rfl, ?_⟩
    rw [mul_lt_mul_iff_left₀ (two_zpow_pos e₁)] at lt
    exact_mod_cast lt
  · have low := h₂.low
    have full := h₁.full.resolve_right (by omega)
    have bits := two_zpow_lt_iff.1
      ((two_zpow_le_mul full e₁).trans_lt (lt.trans (mul_two_zpow_lt h₂.short e₂)))
    omega

/-- What is closer to zero than a positive double is below it. -/
theorem not_le_of_within {x y : Float} {m : ℕ} {e : ℤ} {positive : 0 < m}
    (hx : x.toModel.unpack = .finite .positive m e positive) {b : ℚ} (hy : Within y b)
    (lt : b < m * 2 ^ e) : ¬ x ≤ y := by
  have below := within_iff_below.1 hy
  rw [le_iff, hx, Bool.not_eq_true]
  generalize y.toModel.unpack = v at below
  cases below with
  | zero => rfl
  | @finite s m' e' _ canonical le =>
    cases s with
    | negative => rfl
    | positive =>
      rcases canonical.lt_of_mul_lt (canonical_of_unpack hx) (le.trans_lt lt) with less | ⟨rfl, less⟩
      · simp [UnpackedFloat.le, UnpackedFloat.compare, Int.compare_eq_gt.2 less]
      · simp [UnpackedFloat.le, UnpackedFloat.compare, Nat.compare_eq_gt.2 less]

end Periapsis.Double
