import Periapsis.Proofs.Double.Rounding

/-!
# Bounds of doubles

How far sums, products and quotients of doubles are from zero: not beyond any
double that the exact result is not beyond (`Within.add`, `Within.sub`,
`Within.mul`, `Within.div`). In particular they are finite then.

The other way round, what is not finite stays so: a sum or product is finite only
if both of its operands are (`isFinite_of_add`, `isFinite_of_mul`).
-/

namespace Periapsis.Double

open Float.Model Float.Model.UnpackedFloat

variable {a b c : ℚ} {u v : UnpackedFloat}

/-! ## Unpacked numbers -/

theorem Below.nonneg (h : Below b u) : 0 ≤ b := by
  cases h with
  | zero nonneg => exact nonneg
  | finite _ le => exact le.trans' (mul_nonneg (Nat.cast_nonneg _) (two_zpow_pos _).le)

theorem Below.unpack_pack (h : Below b u) : (Float.Model.pack u).unpack = u := by
  cases h with
  | @zero s _ => cases s <;> rfl
  | finite canonical _ => exact Double.unpack_pack canonical

theorem Below.neg (h : Below b u) : Below b u.neg := by
  cases h with
  | zero nonneg => exact .zero nonneg
  | finite canonical le => exact .finite canonical le

/-- Zeros behind a mantissa take away from its exponent. -/
theorem shiftLeft_mul_two_zpow (m k : ℕ) (e : ℤ) :
    ((m <<< k : ℕ) : ℚ) * 2 ^ e = m * 2 ^ (e + k) := by
  rw [Nat.shiftLeft_eq, two_zpow_add_natCast]
  push_cast
  ring

theorem two_pow_le_shiftLeft {m k bits : ℕ} (positive : m ≠ 0) (le : bits ≤ m.log2 + k) :
    2 ^ bits ≤ m <<< k := by
  rw [Nat.shiftLeft_eq]
  calc 2 ^ bits
    _ ≤ 2 ^ (m.log2 + k) := Nat.pow_le_pow_right (by norm_num) le
    _ = 2 ^ m.log2 * 2 ^ k := pow_add ..
    _ ≤ m * 2 ^ k := Nat.mul_le_mul_right _ (Nat.log2_self_le positive)

/-- How a number is rounded that may be short: zeros behind it make it long enough. -/
theorem exists_round {m : ℕ} (positive : m ≠ 0) (e : ℤ) :
    ∃ k : ℕ, (2 ^ 52 ≤ m <<< k ∨ e - k ≤ -1074) ∧
      ((m <<< k : ℕ) : ℚ) * 2 ^ (e - k) = m * 2 ^ e ∧ ∀ s,
        UnpackedFloat.round Format.binary64 s m e =
          roundWithAccuracy Format.binary64 s (m <<< k) (e - k) .exact := by
  refine ⟨(e - Format.binary64.targetExponent (totalExponent m e)).toNat, ?_, ?_, fun s => rfl⟩
  · rw [targetExponent_eq, totalExponent]
    by_cases least : e - (e - max (((m.log2 : ℤ) + 1 + e) - 53) (-1074)).toNat ≤ -1074
    · exact .inr least
    · exact .inl (two_pow_le_shiftLeft positive (by omega))
  · rw [shiftLeft_mul_two_zpow, sub_add_cancel]

theorem below_round (h : Representable b) {m : ℕ} (positive : m ≠ 0) {e : ℤ}
    (le : (m : ℚ) * 2 ^ e ≤ b) (s : Sign) :
    Below b (UnpackedFloat.round Format.binary64 s m e) := by
  obtain ⟨k, fine, same, rounded⟩ := exists_round positive e
  rw [rounded]
  refine below_roundWithAccuracy h fine ?_ s
  exact same.trans_le le

theorem below_normalize (h : Representable b) {m : ℤ} {e : ℤ} (le : (m.natAbs : ℚ) * 2 ^ e ≤ b)
    (s : Sign) : Below b (UnpackedFloat.normalize Format.binary64 m e s) := by
  unfold UnpackedFloat.normalize
  split
  · rename_i negative
    have negative := Int.compare_eq_lt.1 negative
    have same : (-m).toNat = m.natAbs := by omega
    rw [same]
    exact below_round h (by omega) le _
  · exact .zero (le.trans' (mul_nonneg (Nat.cast_nonneg _) (two_zpow_pos _).le))
  · rename_i positive
    have positive := Int.compare_eq_gt.1 positive
    have same : m.toNat = m.natAbs := by omega
    rw [same]
    exact below_round h (by omega) le _

theorem natAbs_apply (s : Sign) (n : ℕ) : (s.apply n).natAbs = n := by
  cases s <;> simp [Sign.apply]

/-- The mantissa of a number that is written with a lower exponent. -/
theorem decreaseExponent_mul (m : ℕ) {e t : ℤ} (le : t ≤ e) :
    ((decreaseExponent m e t).1 : ℚ) * 2 ^ t = m * 2 ^ e := by
  rw [decreaseExponent, shiftLeft_mul_two_zpow]
  congr 2
  omega

theorem below_add (hu : Below a u) (hv : Below b v) (h : Representable c) (le : a + b ≤ c) :
    Below c (UnpackedFloat.add Format.binary64 u v) := by
  have left : a ≤ c := le.trans' (le_add_of_nonneg_right hv.nonneg)
  have right : b ≤ c := le.trans' (le_add_of_nonneg_left hu.nonneg)
  cases hu with
  | @zero s₁ ha =>
    cases hv with
    | @zero s₂ hb =>
      show Below c (if s₁ == s₂ then .zero s₁ else .zero .positive)
      split <;> exact .zero (ha.trans left)
    | finite canonical bound => exact .finite canonical (bound.trans right)
  | @finite s₁ m₁ e₁ _ canonical₁ bound₁ =>
    cases hv with
    | zero hb => exact .finite canonical₁ (bound₁.trans left)
    | @finite s₂ m₂ e₂ _ canonical₂ bound₂ =>
      refine below_normalize h ?_ _
      have parts := Int.natAbs_add_le (s₁.apply (decreaseExponent m₁ e₁ (min e₁ e₂)).1)
        (s₂.apply (decreaseExponent m₂ e₂ (min e₁ e₂)).1)
      rw [natAbs_apply, natAbs_apply] at parts
      calc _
        _ ≤ ((decreaseExponent m₁ e₁ (min e₁ e₂)).1 + (decreaseExponent m₂ e₂ (min e₁ e₂)).1 : ℚ) *
            2 ^ min e₁ e₂ :=
          (mul_le_mul_iff_left₀ (two_zpow_pos _)).2 (by exact_mod_cast parts)
        _ = m₁ * 2 ^ e₁ + m₂ * 2 ^ e₂ := by
          rw [add_mul, decreaseExponent_mul m₁ (min_le_left ..),
            decreaseExponent_mul m₂ (min_le_right ..)]
        _ ≤ a + b := add_le_add bound₁ bound₂
        _ ≤ c := le

theorem apply_neg (s : Sign) (n : ℤ) : (-s).apply n = -s.apply n := by
  cases s
  · exact (neg_neg n).symm
  · rfl

/-- Differences are sums, also of numbers that are not finite. -/
theorem sub_eq_add_neg (u v : UnpackedFloat) :
    UnpackedFloat.sub Format.binary64 u v = UnpackedFloat.add Format.binary64 u v.neg := by
  cases u with
  | notANumber => cases v <;> rfl
  | infinity | zero => cases v <;> rfl
  | finite s₁ m₁ e₁ =>
    cases v with
    | notANumber | infinity | zero => rfl
    | finite s₂ m₂ e₂ =>
      simp only [UnpackedFloat.sub, UnpackedFloat.neg, UnpackedFloat.add, apply_neg,
        Int.sub_eq_add_neg]

theorem below_sub (hu : Below a u) (hv : Below b v) (h : Representable c) (le : a + b ≤ c) :
    Below c (UnpackedFloat.sub Format.binary64 u v) := by
  rw [sub_eq_add_neg]
  exact below_add hu hv.neg h le

theorem below_mul (hu : Below a u) (hv : Below b v) (h : Representable c) (le : a * b ≤ c) :
    Below c (UnpackedFloat.mul Format.binary64 u v) := by
  have nonneg : 0 ≤ c := (mul_nonneg hu.nonneg hv.nonneg).trans le
  have ha := hu.nonneg
  cases hu with
  | zero => cases hv with | zero | finite => exact .zero nonneg
  | @finite s₁ m₁ e₁ positive₁ canonical₁ bound₁ =>
    cases hv with
    | zero => exact .zero nonneg
    | @finite s₂ m₂ e₂ positive₂ canonical₂ bound₂ =>
      refine below_roundWithAccuracy h ?_ ?_ _
      · rcases canonical₁.full with full₁ | least₁
        · exact .inl (full₁.trans (Nat.le_mul_of_pos_right m₁ positive₂))
        rcases canonical₂.full with full₂ | least₂
        · exact .inl (full₂.trans (Nat.le_mul_of_pos_left m₂ positive₁))
        · exact .inr (by omega)
      · have size₂ := mul_nonneg (Nat.cast_nonneg (α := ℚ) m₂) (two_zpow_pos e₂).le
        calc ((m₁ * m₂ : ℕ) : ℚ) * 2 ^ (e₁ + e₂)
          _ = (m₁ * 2 ^ e₁) * (m₂ * 2 ^ e₂) := by
            rw [zpow_add₀ (by norm_num)]
            push_cast
            ring
          _ ≤ a * b := mul_le_mul bound₁ bound₂ size₂ ha
          _ ≤ c := le

/-! ## Quotients -/

/-- A quotient is rounded up to at most what it was before. -/
theorem ceiling_accuracyOfFraction {p d n : ℕ} (le : p ≤ n * d) :
    ceiling (ExtendedMantissa.ofMantissaAndAccuracy (p / d) (accuracyOfFraction (p % d) d)) ≤
      n := by
  have floor : p / d ≤ n := Nat.div_le_of_le_mul (by rwa [mul_comm])
  unfold accuracyOfFraction
  split
  · exact floor
  · rename_i inexact
    have above : p / d ≠ n := by
      rintro rfl
      have := Nat.div_add_mod p d
      rw [mul_comm] at this
      omega
    have ceil : ceiling (ExtendedMantissa.ofMantissaAndAccuracy (p / d)
        (.inexact (compare (2 * (p % d)) d))) = p / d + 1 := by
      cases compare (2 * (p % d)) d <;> rfl
    omega

/-- How a quotient is taken: the dividend is shifted far enough for a double. -/
theorem exists_divCore (m₁ m₂ : ℕ) (e₁ e₂ : ℤ) :
    ∃ (k : ℕ) (t : ℤ), t + k = e₁ - e₂ ∧
      (t ≤ -1074 ∨ t + 53 + (m₂.log2 + e₂) ≤ m₁.log2 + e₁) ∧
      divCore Format.binary64 m₁ e₁ m₂ e₂ =
        ((m₁ <<< k) / m₂, t, accuracyOfFraction ((m₁ <<< k) % m₂) m₂) := by
  refine ⟨_, _, ?_, ?_, rfl⟩
  · omega
  · rw [targetExponent_eq, totalExponent, totalExponent]
    omega

/-- A quotient has enough bits where the dividend has those and all of the
divisor's. -/
theorem two_pow_le_quotient {m₁ m₂ k bits : ℕ} (positive₁ : m₁ ≠ 0) (positive₂ : 0 < m₂)
    (le : bits + (m₂.log2 + 1) ≤ m₁.log2 + k) : 2 ^ bits ≤ (m₁ <<< k) / m₂ := by
  rw [Nat.le_div_iff_mul_le positive₂]
  calc 2 ^ bits * m₂
    _ ≤ 2 ^ bits * 2 ^ (m₂.log2 + 1) := Nat.mul_le_mul_left _ Nat.lt_log2_self.le
    _ = 2 ^ (bits + (m₂.log2 + 1)) := (pow_add ..).symm
    _ ≤ m₁ <<< k := two_pow_le_shiftLeft positive₁ le

/-- A bound of the quotient, counted in steps of the grid that it is taken on. -/
theorem shiftLeft_le_mul {m₁ m₂ k n : ℕ} {e₁ e₂ t : ℤ} (shifted : t + k = e₁ - e₂)
    (le : (m₁ : ℚ) * 2 ^ e₁ ≤ n * 2 ^ t * (m₂ * 2 ^ e₂)) : m₁ <<< k ≤ n * m₂ := by
  have exponent : t + e₂ + k = e₁ := by omega
  have scaled : ((m₁ <<< k : ℕ) : ℚ) * 2 ^ (t + e₂) ≤ (n * m₂ : ℕ) * 2 ^ (t + e₂) := by
    calc ((m₁ <<< k : ℕ) : ℚ) * 2 ^ (t + e₂)
      _ = m₁ * 2 ^ e₁ := by rw [shiftLeft_mul_two_zpow, exponent]
      _ ≤ n * 2 ^ t * (m₂ * 2 ^ e₂) := le
      _ = (n * m₂ : ℕ) * 2 ^ (t + e₂) := by
        rw [zpow_add₀ (by norm_num)]
        push_cast
        ring
  exact_mod_cast (mul_le_mul_iff_left₀ (two_zpow_pos _)).1 scaled

/-- What bounds a quotient is as long as the quotient. -/
theorem two_zpow_le_of_quotient {m₁ m₂ : ℕ} {e₁ e₂ q : ℤ} (positive₁ : m₁ ≠ 0) (nonneg : 0 ≤ c)
    (long : q + (e₂ + (m₂.log2 + 1)) ≤ e₁ + m₁.log2)
    (le : (m₁ : ℚ) * 2 ^ e₁ ≤ c * (m₂ * 2 ^ e₂)) : 2 ^ q ≤ c := by
  refine le_of_mul_le_mul_right ?_ (two_zpow_pos (e₂ + (m₂.log2 + 1 : ℕ)))
  calc (2 : ℚ) ^ q * 2 ^ (e₂ + (m₂.log2 + 1 : ℕ))
    _ = 2 ^ (q + (e₂ + (m₂.log2 + 1 : ℕ))) := (zpow_add₀ (by norm_num) ..).symm
    _ ≤ 2 ^ (e₁ + m₁.log2) := two_zpow_le_iff.2 (by exact_mod_cast long)
    _ ≤ m₁ * 2 ^ e₁ := two_zpow_le_mul (Nat.log2_self_le positive₁) e₁
    _ ≤ c * (m₂ * 2 ^ e₂) := le
    _ ≤ c * 2 ^ (e₂ + (m₂.log2 + 1 : ℕ)) :=
      mul_le_mul_of_nonneg_left (mul_two_zpow_lt Nat.lt_log2_self e₂).le nonneg

theorem below_div (hu : Below a u) {s₂ : Sign} {m₂ : ℕ} {e₂ : ℤ} {positive₂ : 0 < m₂}
    (h : Representable c) (le : a ≤ c * (m₂ * 2 ^ e₂)) :
    Below c (UnpackedFloat.div Format.binary64 u (.finite s₂ m₂ e₂ positive₂)) := by
  have size₂ : 0 < (m₂ : ℚ) * 2 ^ e₂ := mul_pos (Nat.cast_pos.2 positive₂) (two_zpow_pos e₂)
  have nonneg : 0 ≤ c := nonneg_of_mul_nonneg_left (hu.nonneg.trans le) size₂
  cases hu with
  | zero => exact .zero nonneg
  | @finite s₁ m₁ e₁ positive₁ canonical₁ bound₁ =>
    obtain ⟨k, t, shifted, fine, core⟩ := exists_divCore m₁ m₂ e₁ e₂
    simp only [UnpackedFloat.div, core]
    have le : (m₁ : ℚ) * 2 ^ e₁ ≤ c * (m₂ * 2 ^ e₂) := bound₁.trans le
    obtain ⟨n, rfl⟩ : ∃ n : ℕ, c = n * 2 ^ t := by
      refine h.precise.exists_grid (fine.imp_right fun fine => ?_)
      exact two_zpow_le_of_quotient positive₁.ne' nonneg (by omega) le
    refine below_roundWithAccuracy h (fine.symm.imp_left fun fine => ?_) ?_ _
    · exact two_pow_le_quotient positive₁.ne' positive₂ (by omega)
    · refine (mul_le_mul_iff_left₀ (two_zpow_pos t)).2 ?_
      exact_mod_cast ceiling_accuracyOfFraction (shiftLeft_le_mul shifted le)

/-! ## Doubles -/

/-- How far a finite double is from zero. -/
def size (x : Float) : ℚ :=
  match x.toModel.unpack with
  | .finite _ m e _ => m * 2 ^ e
  | _ => 0

/-- Finite, and at most so far from zero. -/
structure Within (x : Float) (b : ℚ) : Prop where
  isFinite : x.isFinite = true
  size_le : size x ≤ b

instance (x : Float) (b : ℚ) : Decidable (Within x b) :=
  decidable_of_iff (x.isFinite = true ∧ size x ≤ b) ⟨fun h => ⟨h.1, h.2⟩, fun h => ⟨h.1, h.2⟩⟩

variable {x y : Float}

theorem within_iff_below : Within x b ↔ Below b x.toModel.unpack := by
  constructor
  · rintro ⟨finite, le⟩
    unfold size at le
    replace finite : x.toModel.unpack.isFinite = true := finite
    cases hu : x.toModel.unpack with
    | notANumber | infinity => rw [hu] at finite; cases finite
    | zero s => rw [hu] at le; exact .zero le
    | finite s m e positive => rw [hu] at le; exact .finite (canonical_of_unpack hu) le
  · intro h
    suffices both : x.toModel.unpack.isFinite = true ∧ size x ≤ b from ⟨both.1, both.2⟩
    unfold size
    generalize x.toModel.unpack = u at h
    cases h with
    | zero nonneg => exact ⟨rfl, nonneg⟩
    | finite _ le => exact ⟨rfl, le⟩

theorem within_pack (h : Below b u) : Within ⟨Float.Model.pack u⟩ b :=
  within_iff_below.2 (h.unpack_pack.symm ▸ h)

namespace Within

theorem mono (hx : Within x a) (le : a ≤ b) : Within x b :=
  ⟨hx.isFinite, hx.size_le.trans le⟩

theorem neg (hx : Within x a) : Within (-x) a :=
  within_pack (within_iff_below.1 hx).neg

theorem add (hx : Within x a) (hy : Within y b) (h : Representable c) (le : a + b ≤ c) :
    Within (x + y) c :=
  within_pack (below_add (within_iff_below.1 hx) (within_iff_below.1 hy) h le)

theorem sub (hx : Within x a) (hy : Within y b) (h : Representable c) (le : a + b ≤ c) :
    Within (x - y) c :=
  within_pack (below_sub (within_iff_below.1 hx) (within_iff_below.1 hy) h le)

theorem mul (hx : Within x a) (hy : Within y b) (h : Representable c) (le : a * b ≤ c) :
    Within (x * y) c :=
  within_pack (below_mul (within_iff_below.1 hx) (within_iff_below.1 hy) h le)

theorem div (hx : Within x a) (positive : 0 < size y) (h : Representable c)
    (le : a ≤ c * size y) : Within (x / y) c := by
  show Within ⟨Float.Model.pack
    (UnpackedFloat.div Format.binary64 x.toModel.unpack y.toModel.unpack)⟩ c
  unfold size at positive le
  generalize y.toModel.unpack = v at positive le
  cases v with
  | notANumber | infinity | zero => cases positive.false
  | finite => exact within_pack (below_div (within_iff_below.1 hx) h le)

end Within

/-- The power of two that a double starts with. -/
theorem exists_two_zpow_le_size (positive : 0 < size x) :
    ∃ q : ℤ, q ≤ 1023 ∧ 2 ^ q ≤ size x ∧ size x < 2 ^ (q + 1) := by
  unfold size at *
  cases hu : x.toModel.unpack with
  | notANumber | infinity | zero => rw [hu] at positive; cases positive.false
  | finite s m e mantissa =>
    have canonical := canonical_of_unpack hu
    refine ⟨e + m.log2, ?_, two_zpow_le_mul (Nat.log2_self_le mantissa.ne') e, ?_⟩
    · have bits := (Nat.log2_lt mantissa.ne').2 canonical.short
      have high := canonical.high
      omega
    · have less := mul_two_zpow_lt (Nat.lt_log2_self (n := m)) e
      rwa [Nat.cast_add, Nat.cast_one, ← add_assoc] at less

/-! ## Numbers that are not finite -/

theorem isFinite_pack (h : (Float.Model.pack u).unpack.isFinite = true) : u.isFinite = true := by
  cases u with
  | notANumber => exact h
  | infinity s => cases s <;> exact h
  | zero | finite => rfl

theorem isFinite_of_isFinite_add (h : (UnpackedFloat.add Format.binary64 u v).isFinite = true) :
    u.isFinite = true ∧ v.isFinite = true := by
  cases u with
  | notANumber => cases v <;> cases h
  | infinity s₁ =>
    cases v with
    | notANumber | zero | finite => cases h
    | infinity s₂ =>
      replace h : UnpackedFloat.isFinite (if s₁ == s₂ then .infinity s₁ else .notANumber) = true :=
        h
      split at h <;> cases h
  | zero | finite =>
    cases v with
    | notANumber | infinity => cases h
    | zero | finite => exact ⟨rfl, rfl⟩

theorem isFinite_of_isFinite_mul (h : (UnpackedFloat.mul Format.binary64 u v).isFinite = true) :
    u.isFinite = true ∧ v.isFinite = true := by
  cases u with
  | notANumber | infinity => cases v <;> cases h
  | zero | finite =>
    cases v with
    | notANumber | infinity => cases h
    | zero | finite => exact ⟨rfl, rfl⟩

/-- A sum is finite only if its terms are. -/
theorem isFinite_of_add (h : (x + y).isFinite = true) : x.isFinite = true ∧ y.isFinite = true :=
  isFinite_of_isFinite_add (isFinite_pack h)

/-- A product is finite only if its factors are. -/
theorem isFinite_of_mul (h : (x * y).isFinite = true) : x.isFinite = true ∧ y.isFinite = true :=
  isFinite_of_isFinite_mul (isFinite_pack h)

end Periapsis.Double
