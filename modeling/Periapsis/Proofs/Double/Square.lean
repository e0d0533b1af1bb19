import Periapsis.Proofs.Double.Order

/-!
# Squares and roots of doubles

How far squares and roots of doubles are from zero at least. Rounding never goes
below a point of the grid of the doubles (`above_roundWithAccuracy`), even where it
goes beyond all that are finite, so that a sum or a square is at least any such
point that the exact result is at least (`AtLeast.add`, `AtLeast.mul_self`).

So the square of a large double is infinite (`AtLeast.not_isFinite`), and that of a
small one is zero (`unpack_mul_self_eq_zero`). A root is neither: the root of a
positive double is finite and far from the least double (`exists_sqrt`).
-/

namespace Periapsis.Double

open Float.Model Float.Model.UnpackedFloat

variable {a b c : ℚ} {u v : UnpackedFloat}

/-! ## Rounding from below -/

theorem precise_zero : Precise 0 :=
  ⟨0, 0, by norm_num, by norm_num, by norm_num⟩

theorem precise_two_zpow {k : ℤ} (low : -1074 ≤ k) : Precise (2 ^ k) :=
  ⟨1, k, by norm_num, low, by rw [Nat.cast_one, one_mul]⟩

/-- Not negative and at least so large, as rounding comes to it. -/
inductive Above (b : ℚ) : UnpackedFloat → Prop where
  | zero : b ≤ 0 → Above b (.zero .positive)
  | finite {m : ℕ} {e : ℤ} {positive : 0 < m} :
    Rounded m e → b ≤ m * 2 ^ e → Above b (.finite .positive m e positive)
  | infinity : Above b (.infinity .positive)

/-- A shift does not cut off more than what is beyond a point of the grid. -/
theorem Precise.le_shifted (h : Precise b) {m k : ℕ} {e : ℤ} (rounded : Rounded (m / 2 ^ k) (e + k))
    (le : b ≤ m * 2 ^ e) : b ≤ (m / 2 ^ k : ℕ) * 2 ^ (e + k) := by
  by_cases fine : e + k ≤ -1074 ∨ 2 ^ (e + k + 52) ≤ b
  · obtain ⟨n, rfl⟩ := h.exists_grid fine
    refine (mul_le_mul_iff_left₀ (two_zpow_pos _)).2 ?_
    rw [two_zpow_add_natCast, ← mul_assoc, mul_le_mul_iff_left₀ (two_zpow_pos e)] at le
    have le : n * 2 ^ k ≤ m := by exact_mod_cast le
    exact_mod_cast (Nat.le_div_iff_mul_le (by positivity)).2 le
  -- Here all that is left on the grid has the bits of a double and is beyond `b`.
  · obtain ⟨notLeast, short⟩ := not_or.1 fine
    have full := rounded.full.resolve_right fun least => notLeast least.le
    exact (not_le.1 short).le.trans (two_zpow_le_mul full (e + k))

theorem above_of_rounded {em : ExtendedMantissa} {t : ℤ} (rounded : Rounded em.mantissa t)
    (le : b ≤ em.mantissa * 2 ^ t) :
    Above b
      (let final := shiftToTargetExponent Format.binary64 em.roundedMantissa t .exact
      if h : final.1.mantissa = 0 then .zero .positive
      else .finite .positive final.1.mantissa final.2 (Nat.pos_of_ne_zero h)) := by
  obtain ⟨m, e, final, same, shifted⟩ := exists_final rounded
  have lower : (em.mantissa : ℚ) ≤ em.roundedMantissa := by exact_mod_cast mantissa_le_rounded em
  have le : b ≤ m * 2 ^ e :=
    (le.trans ((mul_le_mul_iff_left₀ (two_zpow_pos t)).2 lower)).trans same.ge
  rw [shifted]
  dsimp only
  split
  · rename_i zero
    exact .zero (by rw [zero] at le; simpa using le)
  · exact .finite final le

/-- Rounding never goes below a number that would be a double. -/
theorem above_roundWithAccuracy (h : Precise b) {m : ℕ} {e : ℤ} {acc : Accuracy}
    (fine : 2 ^ 52 ≤ m ∨ e ≤ -1074) (le : b ≤ m * 2 ^ e) :
    Above b (roundWithAccuracy Format.binary64 .positive m e acc) := by
  obtain ⟨k, shifted, mantissa, rounded⟩ := exists_rounded fine acc
  have least := h.le_shifted rounded le
  rw [← mantissa] at rounded least
  rw [roundWithAccuracy, shifted]
  exact above_of_rounded rounded least

theorem above_round (h : Precise b) {m : ℕ} (positive : m ≠ 0) {e : ℤ} (le : b ≤ m * 2 ^ e) :
    Above b (UnpackedFloat.round Format.binary64 .positive m e) := by
  obtain ⟨k, fine, same, rounded⟩ := exists_round positive e
  rw [rounded]
  exact above_roundWithAccuracy h fine (le.trans same.ge)

theorem normalize_natCast {m : ℕ} (positive : m ≠ 0) (e : ℤ) (s : Sign) :
    UnpackedFloat.normalize Format.binary64 m e s =
      UnpackedFloat.round Format.binary64 .positive m e := by
  have more : compare (m : ℤ) 0 = .gt := Int.compare_eq_gt.2 (by omega)
  rw [UnpackedFloat.normalize, more]
  rfl

theorem decreaseExponent_pos {m : ℕ} (positive : 0 < m) (e t : ℤ) :
    0 < (decreaseExponent m e t).1 := by
  rw [decreaseExponent, Nat.shiftLeft_eq]
  positivity

/-- Positive numbers are added without a difference. -/
theorem add_positive {m₁ m₂ : ℕ} {e₁ e₂ : ℤ} (positive₁ : 0 < m₁) (positive₂ : 0 < m₂) :
    UnpackedFloat.add Format.binary64 (.finite .positive m₁ e₁ positive₁)
        (.finite .positive m₂ e₂ positive₂) =
      UnpackedFloat.round Format.binary64 .positive ((decreaseExponent m₁ e₁ (min e₁ e₂)).1 +
        (decreaseExponent m₂ e₂ (min e₁ e₂)).1) (min e₁ e₂) := by
  have first := decreaseExponent_pos positive₁ e₁ (min e₁ e₂)
  exact normalize_natCast (Nat.add_pos_left first _).ne' ..

theorem above_add (hu : Above a u) (hv : Above b v) (h : Precise c) (le : c ≤ a + b) :
    Above c (UnpackedFloat.add Format.binary64 u v) := by
  cases hu with
  | zero ha =>
    have le : c ≤ b := le.trans (add_le_of_nonpos_left ha)
    cases hv with
    | zero hb => exact .zero (le.trans hb)
    | finite rounded least => exact .finite rounded (le.trans least)
    | infinity => exact .infinity
  | @finite m₁ e₁ positive₁ rounded₁ least₁ =>
    cases hv with
    | zero hb => exact .finite rounded₁ ((le.trans (add_le_of_nonpos_right hb)).trans least₁)
    | @finite m₂ e₂ positive₂ rounded₂ least₂ =>
      have first := decreaseExponent_pos positive₁ e₁ (min e₁ e₂)
      rw [add_positive]
      refine above_round h (Nat.add_pos_left first _).ne' ?_
      calc c
        _ ≤ a + b := le
        _ ≤ m₁ * 2 ^ e₁ + m₂ * 2 ^ e₂ := add_le_add least₁ least₂
        _ = ((decreaseExponent m₁ e₁ (min e₁ e₂)).1 + (decreaseExponent m₂ e₂ (min e₁ e₂)).1 : ℕ) *
            2 ^ min e₁ e₂ := by
          rw [Nat.cast_add, add_mul, decreaseExponent_mul m₁ (min_le_left ..),
            decreaseExponent_mul m₂ (min_le_right ..)]
    | infinity => exact .infinity
  | infinity => cases hv <;> exact .infinity

theorem mul_self_two_zpow (m : ℕ) (e : ℤ) :
    ((m * m : ℕ) : ℚ) * 2 ^ (e + e) = m * 2 ^ e * (m * 2 ^ e) := by
  rw [zpow_add₀ (by norm_num)]
  push_cast
  ring

/-- A square is not negative. -/
theorem square_finite (s : Sign) {m : ℕ} (e : ℤ) (positive : 0 < m) :
    UnpackedFloat.mul Format.binary64 (.finite s m e positive) (.finite s m e positive) =
      roundWithAccuracy Format.binary64 .positive (m * m) (e + e) .exact := by
  cases s <;> rfl

theorem above_mul_self (h : Precise c) {s : Sign} {m : ℕ} {e : ℤ} {positive : 0 < m}
    (canonical : Canonical m e) (le : c ≤ m * 2 ^ e * (m * 2 ^ e)) :
    Above c (UnpackedFloat.mul Format.binary64 (.finite s m e positive)
      (.finite s m e positive)) := by
  rw [square_finite]
  refine above_roundWithAccuracy h ?_ (le.trans (mul_self_two_zpow m e).ge)
  rcases canonical.full with full | least
  · exact .inl (full.trans (Nat.le_mul_of_pos_right m positive))
  · exact .inr (by omega)

theorem Above.unpack_pack (h : Above b u) : Above b (Float.Model.pack u).unpack := by
  cases h with
  | zero least => exact .zero least
  | @finite m e positive rounded least =>
    by_cases high : e ≤ 971
    · rw [Double.unpack_pack (rounded.canonical high)]
      exact .finite rounded least
    -- What is too large for a double is infinite once it is packed.
    · have infinite : Float.Model.pack (.finite .positive m e positive) =
          Float.Model.pack (.infinity .positive) := by
        have bias : (Format.binary64.exponentBias : ℤ) + (52 : ℕ) = 1075 := by decide
        have top : UnpackedFloat.pack Format.binary64 (.finite .positive m e positive) =
            UnpackedFloat.pack Format.binary64 (.infinity .positive) := by
          unfold UnpackedFloat.pack
          dsimp only
          rw [add_assoc, bias, if_pos (by norm_num; omega)]
        simp only [Float.Model.pack, top]
      rw [infinite]
      exact .infinity
  | infinity => exact .infinity

/-! ## Doubles -/

theorem unpack_add (x y : Float) : (x + y).toModel.unpack =
    (Float.Model.pack (UnpackedFloat.add Format.binary64 x.toModel.unpack y.toModel.unpack)).unpack :=
  rfl

theorem unpack_mul (x y : Float) : (x * y).toModel.unpack =
    (Float.Model.pack (UnpackedFloat.mul Format.binary64 x.toModel.unpack y.toModel.unpack)).unpack :=
  rfl

theorem unpack_sqrt (x : Float) : x.sqrt.toModel.unpack =
    (Float.Model.pack (UnpackedFloat.sqrt Format.binary64 x.toModel.unpack)).unpack :=
  rfl

/-- Not negative and at least so large. Infinity is. -/
def AtLeast (x : Float) (b : ℚ) : Prop :=
  Above b x.toModel.unpack

variable {x y : Float}

namespace AtLeast

theorem add (hx : AtLeast x a) (hy : AtLeast y b) (h : Precise c) (le : c ≤ a + b) :
    AtLeast (x + y) c :=
  (above_add hx hy h le).unpack_pack

theorem mul_self (finite : x.isFinite = true) (h : Precise c) (le : c ≤ size x * size x) :
    AtLeast (x * x) c := by
  unfold AtLeast
  rw [unpack_mul]
  replace finite : x.toModel.unpack.isFinite = true := finite
  unfold size at le
  cases hu : x.toModel.unpack with
  | notANumber | infinity => rw [hu] at finite; cases finite
  | zero s =>
    rw [hu] at le
    cases s <;> exact .zero (by simpa using le)
  | finite s m e positive =>
    rw [hu] at le
    exact (above_mul_self h (canonical_of_unpack hu) le).unpack_pack

/-- No finite double reaches this power of two. -/
theorem not_isFinite (hx : AtLeast x (2 ^ (1024 : ℤ))) : x.isFinite = false := by
  show x.toModel.unpack.isFinite = false
  unfold AtLeast at hx
  cases hu : x.toModel.unpack with
  | notANumber | infinity => rfl
  | zero s =>
    rw [hu] at hx
    cases hx with
    | zero least => exact absurd least (two_zpow_pos 1024).not_ge
  | finite s m e positive =>
    rw [hu] at hx
    cases hx with
    | finite _ least =>
      have canonical := canonical_of_unpack hu
      have bits := two_zpow_lt_iff.1 (least.trans_lt (mul_two_zpow_lt canonical.short e))
      have high := canonical.high
      omega

theorem pos (hx : AtLeast x b) (positive : 0 < b) : 0 < x := by
  rw [lt_iff, unpack_zero]
  unfold AtLeast at hx
  generalize x.toModel.unpack = u at hx
  cases hx with
  | zero least => exact absurd least positive.not_ge
  | finite | infinity => rfl

end AtLeast

/-! ## Small numbers -/

theorem roundedMantissa_shiftRightOne {em : ExtendedMantissa} (zero : em.mantissa = 0) :
    em.shiftRightOne.roundedMantissa = 0 := by
  obtain ⟨m, r, s⟩ := em
  obtain rfl : m = 0 := zero
  cases r <;> cases s <;> rfl

/-- What is less than half of the least double is rounded to nothing. -/
theorem roundWithAccuracy_eq_zero {m : ℕ} (positive : 0 < m) {e : ℤ}
    (lt : (m : ℚ) * 2 ^ e < 2 ^ (-1075 : ℤ)) (s : Sign) :
    roundWithAccuracy Format.binary64 s m e .exact = .zero s := by
  have bits := two_zpow_lt_iff.1 ((two_zpow_le_mul (Nat.log2_self_le positive.ne') e).trans_lt lt)
  obtain ⟨k, shifted, target⟩ := exists_shift (m := m) (e := e) (.inr (by omega)) .exact
  obtain ⟨j, rfl⟩ : ∃ j, k = j + 1 := Nat.exists_eq_succ_of_ne_zero (by omega)
  have short : m < 2 ^ j := by
    have power : (2 : ℚ) ^ (-1075 : ℤ) = (2 ^ j : ℕ) * 2 ^ e := by
      rw [Nat.cast_pow, Nat.cast_ofNat, ← two_zpow_add_natCast]
      congr 1
      push_cast at target
      omega
    rw [power, mul_lt_mul_iff_left₀ (two_zpow_pos e)] at lt
    exact_mod_cast lt
  have none : (ExtendedMantissa.ofMantissaAndAccuracy m .exact >>> j).mantissa = 0 := by
    rw [mantissa_shiftRight, mantissa_ofMantissaAndAccuracy, Nat.div_eq_of_lt short]
  rw [roundWithAccuracy, shifted, shiftRight_succ]
  dsimp only
  rw [roundedMantissa_shiftRightOne none, shiftToTargetExponent_of_lt (by norm_num) (by omega)]
  rfl

/-- A square is nothing where it would be far below the least double. -/
theorem unpack_mul_self_eq_zero (hx : Within x (2 ^ (-538 : ℤ))) :
    (x * x).toModel.unpack = .zero .positive := by
  have below := within_iff_below.1 hx
  rw [unpack_mul]
  generalize x.toModel.unpack = u at below
  cases below with
  | @zero s _ => cases s <;> rfl
  | @finite s m e positive canonical le =>
    have small : ((m * m : ℕ) : ℚ) * 2 ^ (e + e) < 2 ^ (-1075 : ℤ) := by
      calc ((m * m : ℕ) : ℚ) * 2 ^ (e + e)
        _ = m * 2 ^ e * (m * 2 ^ e) := mul_self_two_zpow m e
        _ ≤ 2 ^ (-538 : ℤ) * 2 ^ (-538 : ℤ) := by gcongr
        _ < 2 ^ (-1075 : ℤ) := by
          rw [← zpow_add₀ (by norm_num)]
          exact two_zpow_lt_iff.2 (by norm_num)
    rw [square_finite, roundWithAccuracy_eq_zero (Nat.mul_pos positive positive) small]
    rfl

/-! ## Roots -/

/-- How a root is taken: of an even exponent, and with all the bits of a double. -/
theorem exists_sqrtCore {m : ℕ} {e : ℤ} (canonical : Canonical m e) :
    ∃ (k : ℕ) (t : ℤ) (acc : Accuracy), 2 * t + k = e ∧ -589 ≤ t ∧ 2 * t + 104 ≤ m.log2 + e ∧
      sqrtCore Format.binary64 m e = (Nat.sqrt (m <<< k), t, acc) := by
  have low := canonical.low
  have half (i : ℤ) : i.ediv 2 = i / 2 := rfl
  refine ⟨_, _, _, ?_, ?_, ?_, rfl⟩ <;> rw [targetExponent_eq, totalExponent, half, half] <;> omega

/-- A root has half of the bits. -/
theorem sqrt_shiftLeft_lt {m k n : ℕ} (le : m.log2 + 1 + k ≤ 2 * n) :
    Nat.sqrt (m <<< k) < 2 ^ n := by
  rw [Nat.sqrt_lt, ← pow_add, ← two_mul, Nat.shiftLeft_eq]
  calc m * 2 ^ k
    _ < 2 ^ (m.log2 + 1) * 2 ^ k :=
      (Nat.mul_lt_mul_right (Nat.two_pow_pos k)).2 Nat.lt_log2_self
    _ = 2 ^ (m.log2 + 1 + k) := (pow_add ..).symm
    _ ≤ 2 ^ (2 * n) := Nat.pow_le_pow_right (by norm_num) le

/-- The root of a positive double is a positive double, far from the least one. -/
theorem exists_sqrt {m : ℕ} {e : ℤ} (canonical : Canonical m e) (positive : 0 < m) :
    ∃ (n : ℕ) (t : ℤ) (positive' : 0 < n), Canonical n t ∧ 2 ^ (-537 : ℤ) ≤ (n : ℚ) * 2 ^ t ∧
      UnpackedFloat.sqrt Format.binary64 (.finite .positive m e positive) =
        .finite .positive n t positive' := by
  obtain ⟨k, t, acc, exponent, low, bits, core⟩ := exists_sqrtCore canonical
  have root : 2 ^ 52 ≤ Nat.sqrt (m <<< k) := by
    rw [Nat.le_sqrt, ← pow_add]
    exact two_pow_le_shiftLeft positive.ne' (by omega)
  have above : Above (2 ^ (-537 : ℤ))
      (roundWithAccuracy Format.binary64 .positive (Nat.sqrt (m <<< k)) t acc) := by
    refine above_roundWithAccuracy (precise_two_zpow (by norm_num)) (.inl root) ?_
    exact (two_zpow_le_iff.2 (by push_cast; omega)).trans (two_zpow_le_mul root t)
  have below : Below (2 ^ (1023 : ℤ))
      (roundWithAccuracy Format.binary64 .positive (Nat.sqrt (m <<< k)) t acc) := by
    have short := (Nat.log2_lt positive.ne').2 canonical.short
    have high := canonical.high
    obtain ⟨n, hn⟩ : ∃ n : ℕ, t + n = 1023 := ⟨(1023 - t).toNat, by omega⟩
    have reach : ceiling (ExtendedMantissa.ofMantissaAndAccuracy (Nat.sqrt (m <<< k)) acc) ≤
        2 ^ n := by
      refine (ceiling_le_succ _).trans ?_
      rw [mantissa_ofMantissaAndAccuracy]
      exact sqrt_shiftLeft_lt (by omega)
    have few : 1 < 2 ^ 1 := by norm_num
    have top : Representable ((1 : ℕ) * 2 ^ (1023 : ℤ)) :=
      (fits_of_bits few (by norm_num) (by norm_num) (by norm_num)).representable
    rw [Nat.cast_one, one_mul] at top
    refine below_roundWithAccuracy top (.inl root) ?_ .positive
    rw [← hn, two_zpow_add_natCast]
    exact (mul_le_mul_iff_left₀ (two_zpow_pos t)).2 (by exact_mod_cast reach)
  have same : UnpackedFloat.sqrt Format.binary64 (.finite .positive m e positive) =
      roundWithAccuracy Format.binary64 .positive (Nat.sqrt (m <<< k)) t acc := by
    simp only [UnpackedFloat.sqrt, core]
  rw [same]
  generalize roundWithAccuracy Format.binary64 .positive (Nat.sqrt (m <<< k)) t acc = u at *
  cases above with
  | zero least => exact absurd least (two_zpow_pos _).not_ge
  | infinity => cases below
  | @finite n t' positive' _ least =>
    cases below with
    | finite canonical' _ => exact ⟨n, t', positive', canonical', least, rfl⟩

end Periapsis.Double
