import Mathlib
import Periapsis.Vector

/-!
# Rounding of doubles

A finite double is a mantissa of at most 53 bits times a power of two
(`canonical_of_unpack`), and packing such a number loses nothing (`unpack_pack`).

Rounding shifts a mantissa to the grid of the doubles around it. The least point
of the grid above a number (`ceiling`) is not beyond any double above the number,
because doubles lie on the grid (`Precise.exists_grid`). So rounding never
goes beyond a double (`below_roundWithAccuracy`), and a number below one that is
finite stays finite.
-/

namespace Periapsis.Double

open Float.Model Float.Model.UnpackedFloat

/-! ## Canonical numbers -/

/-- The mantissas and exponents of doubles: either the mantissa has all of its
53 bits, or the exponent is the least one. -/
structure Canonical (mantissa : ℕ) (exponent : ℤ) : Prop where
  short : mantissa < 2 ^ 53
  low : -1074 ≤ exponent
  high : exponent ≤ 971
  full : 2 ^ 52 ≤ mantissa ∨ exponent = -1074

/-- The mantissas and exponents that rounding comes to. They are those of a double
unless the exponent is too large. -/
structure Rounded (mantissa : ℕ) (exponent : ℤ) : Prop where
  short : mantissa < 2 ^ 53
  low : -1074 ≤ exponent
  full : 2 ^ 52 ≤ mantissa ∨ exponent = -1074

theorem Rounded.canonical {m : ℕ} {e : ℤ} (h : Rounded m e) (high : e ≤ 971) : Canonical m e :=
  ⟨h.short, h.low, high, h.full⟩

theorem toNat_leading (m : BitVec 52) : (1#1 ++ m).toNat = 2 ^ 52 + m.toNat := by
  rw [BitVec.toNat_append, ← Nat.shiftLeft_add_eq_or_of_lt m.isLt]
  rfl

theorem canonical_of_unpack {x : Float.Model} {s : Sign} {m : ℕ} {e : ℤ} {positive : 0 < m}
    (h : x.unpack = .finite s m e positive) : Canonical m e := by
  have short : (@unpackMantissa Format.binary64 x.toBits.toBitVec).toNat < 2 ^ 52 := BitVec.isLt _
  have range : (@unpackExponent Format.binary64 x.toBits.toBitVec).toNat < 2 ^ 11 := BitVec.isLt _
  have bias : (Format.binary64.exponentBias : ℤ) + (52 : ℕ) = 1075 := by decide
  unfold Float.Model.unpack UnpackedFloat.unpack at h
  dsimp only at h
  split at h
  · split at h <;> cases h
  rename_i notSpecial
  split at h
  · rename_i subnormal
    split at h
    · cases h
    · cases h
      rw [subnormal]
      exact ⟨by omega, by decide, by decide, .inr (by decide)⟩
  · rename_i normal
    cases h
    have least : (@unpackExponent Format.binary64 x.toBits.toBitVec).toNat ≠ 0 :=
      fun zero => normal (BitVec.eq_of_toNat_eq zero)
    have most : (@unpackExponent Format.binary64 x.toBits.toBitVec).toNat ≠ 2047 :=
      fun top => notSpecial (BitVec.eq_of_toNat_eq top)
    rw [toNat_leading]
    exact ⟨by omega, by omega, by omega, .inl (by omega)⟩

theorem unpack_packComponents_normal (s : Sign) {e : BitVec 11} (least : e ≠ 0#11)
    (most : e ≠ -1#11) {m : BitVec 52} {n : ℕ} (mantissa : (1#1 ++ m).toNat = n)
    (positive : 0 < n) :
    UnpackedFloat.unpack Format.binary64 (packComponents Format.binary64 s e m) =
      .finite s n (e.toNat - 1075) positive := by
  subst mantissa
  unfold UnpackedFloat.unpack
  simp only [unpackMantissa_packComponents, unpackExponent_packComponents,
    unpackSign_packComponents, Sign.ofBitVec_toBitVec, least, most, if_false]
  rfl

theorem unpack_packComponents_subnormal (s : Sign) {m : BitVec 52} {n : ℕ} (mantissa : m.toNat = n)
    (positive : 0 < n) :
    UnpackedFloat.unpack Format.binary64 (packComponents Format.binary64 s 0#11 m) =
      .finite s n (-1074) positive := by
  subst mantissa
  have special : 0#11 ≠ -1#11 := by decide
  have nonzero : m ≠ 0#52 := by
    rintro rfl
    exact Nat.lt_irrefl 0 positive
  unfold UnpackedFloat.unpack
  simp only [unpackMantissa_packComponents, unpackExponent_packComponents,
    unpackSign_packComponents, Sign.ofBitVec_toBitVec, special, nonzero, if_false, if_true, dif_neg,
    not_false_eq_true]
  rfl

theorem unpack_pack {s : Sign} {m : ℕ} {e : ℤ} {positive : 0 < m} (h : Canonical m e) :
    (Float.Model.pack (.finite s m e positive)).unpack = .finite s m e positive := by
  show UnpackedFloat.unpack Format.binary64
    (UnpackedFloat.pack Format.binary64 (.finite s m e positive)) = _
  obtain ⟨short, low, high, full⟩ := h
  have bias : (Format.binary64.exponentBias : ℤ) + (52 : ℕ) = 1075 := by decide
  unfold UnpackedFloat.pack
  dsimp only
  rw [add_assoc, bias, if_neg (by norm_num; omega)]
  by_cases normal : 2 ^ 52 ≤ m
  · have bits : m.log2 + 1 = Format.binary64.mantissaBits :=
      congrArg (· + 1) ((Nat.log2_eq_iff positive.ne').2 ⟨normal, short⟩)
    have exponent : (BitVec.ofNat 11 (e + 1075).toNat).toNat = (e + 1075).toNat := by
      rw [BitVec.toNat_ofNat, Nat.mod_eq_of_lt (by omega)]
    have least : BitVec.ofNat 11 (e + 1075).toNat ≠ 0#11 := fun zero => by
      have zero : (e + 1075).toNat = 0 := exponent.symm.trans (congrArg BitVec.toNat zero)
      omega
    have most : BitVec.ofNat 11 (e + 1075).toNat ≠ -1#11 := fun top => by
      have top : (e + 1075).toNat = 2047 := exponent.symm.trans (congrArg BitVec.toNat top)
      omega
    have mantissa : (1#1 ++ BitVec.ofNat 52 m).toNat = m := by
      rw [toNat_leading, BitVec.toNat_ofNat]
      omega
    have back : ((e + 1075).toNat : ℤ) - 1075 = e := by omega
    rw [if_pos bits, unpack_packComponents_normal s least most mantissa positive, exponent, back]
  · have bits : ¬ m.log2 + 1 = Format.binary64.mantissaBits := fun bits =>
      normal ((Nat.log2_eq_iff positive.ne').1 (Nat.succ.inj bits)).1
    have mantissa : (BitVec.ofNat 52 m).toNat = m := by
      rw [BitVec.toNat_ofNat, Nat.mod_eq_of_lt (by omega)]
    rw [if_neg bits, unpack_packComponents_subnormal s mantissa positive,
      full.resolve_left normal]

/-! ## Rounding -/

/-- The least mantissa that is not below the number that is rounded. -/
def ceiling (em : ExtendedMantissa) : ℕ :=
  em.mantissa + (em.roundBit || em.stickyBit).toNat

theorem mantissa_le_rounded (em : ExtendedMantissa) : em.mantissa ≤ em.roundedMantissa := by
  obtain ⟨m, r, s⟩ := em
  cases r <;> cases s <;>
    simp [ExtendedMantissa.roundedMantissa, ExtendedMantissa.accuracy, Accuracy.roundToNearestEven]

theorem rounded_le_ceiling (em : ExtendedMantissa) : em.roundedMantissa ≤ ceiling em := by
  obtain ⟨m, r, s⟩ := em
  cases r <;> cases s <;>
    simp [ExtendedMantissa.roundedMantissa, ExtendedMantissa.accuracy, Accuracy.roundToNearestEven,
      ceiling]
  omega

theorem ceiling_shiftRightOne {em : ExtendedMantissa} {n : ℕ} (h : ceiling em ≤ 2 * n) :
    ceiling em.shiftRightOne ≤ n := by
  obtain ⟨m, r, s⟩ := em
  unfold ceiling ExtendedMantissa.shiftRightOne at *
  rcases Nat.mod_two_eq_zero_or_one m with even | odd
  · cases r <;> cases s <;> simp_all <;> omega
  · cases r <;> cases s <;> simp_all <;> omega

theorem shiftRight_succ (em : ExtendedMantissa) (k : ℕ) :
    em >>> (k + 1) = (em >>> k).shiftRightOne :=
  rfl

theorem ceiling_shiftRight {em : ExtendedMantissa} (k : ℕ) {n : ℕ} (h : ceiling em ≤ 2 ^ k * n) :
    ceiling (em >>> k) ≤ n := by
  induction k generalizing n with
  | zero => exact (by simpa using h : ceiling em ≤ n)
  | succ k ih =>
    rw [shiftRight_succ]
    apply ceiling_shiftRightOne
    apply ih
    rwa [← mul_assoc, ← pow_succ]

theorem mantissa_shiftRight (em : ExtendedMantissa) (k : ℕ) :
    (em >>> k).mantissa = em.mantissa / 2 ^ k := by
  induction k with
  | zero => simp [HShiftRight.hShiftRight, Nat.repeat]
  | succ k ih =>
    rw [shiftRight_succ, ExtendedMantissa.shiftRightOne, ih, Nat.div_div_eq_div_mul, ← pow_succ]

theorem mantissa_ofMantissaAndAccuracy (m : ℕ) (a : Accuracy) :
    (ExtendedMantissa.ofMantissaAndAccuracy m a).mantissa = m := by
  cases a with
  | exact => rfl
  | inexact o => cases o <;> rfl

theorem targetExponent_eq (bits : ℤ) :
    Format.binary64.targetExponent bits = max (bits - 53) (-1074) :=
  rfl

/-- A mantissa that fits is not shifted. -/
theorem shiftToTargetExponent_of_lt {m : ℕ} {e : ℤ} (short : m < 2 ^ 53) (low : -1074 ≤ e) :
    shiftToTargetExponent Format.binary64 m e .exact = (⟨m, false, false⟩, e) := by
  have bits : m.log2 ≤ 52 := by
    rcases Nat.eq_zero_or_pos m with rfl | positive
    · simp
    · have := (Nat.log2_lt positive.ne').2 short
      omega
  have still : (Format.binary64.targetExponent (totalExponent m e) - e).toNat = 0 := by
    rw [targetExponent_eq, totalExponent]
    omega
  simp only [shiftToTargetExponent, shiftToExponent, still]
  simp [HShiftRight.hShiftRight, Nat.repeat, ExtendedMantissa.ofMantissaAndAccuracy]

/-- One that has grown to 54 bits is, by one. -/
theorem shiftToTargetExponent_two_pow {e : ℤ} (low : -1074 ≤ e) :
    shiftToTargetExponent Format.binary64 (2 ^ 53) e .exact = (⟨2 ^ 52, false, false⟩, e + 1) := by
  have one : (Format.binary64.targetExponent (totalExponent (2 ^ 53) e) - e).toNat = 1 := by
    rw [targetExponent_eq, totalExponent, Nat.log2_two_pow]
    omega
  simp only [shiftToTargetExponent, shiftToExponent, one]
  rfl

/-- How far a number is shifted that has at least the bits of a double. -/
theorem exists_shift {m : ℕ} {e : ℤ} (fine : 2 ^ 52 ≤ m ∨ e ≤ -1074) (a : Accuracy) :
    ∃ k : ℕ, shiftToTargetExponent Format.binary64 m e a =
        (ExtendedMantissa.ofMantissaAndAccuracy m a >>> k, e + k) ∧
      e + k = max (m.log2 + e - 52) (-1074) := by
  refine ⟨(Format.binary64.targetExponent (totalExponent m e) - e).toNat, rfl, ?_⟩
  have bits : 52 ≤ m.log2 ∨ e ≤ -1074 := by
    refine fine.imp_left fun long => ?_
    have positive : m ≠ 0 := by omega
    exact (Nat.le_log2 positive).2 long
  rw [targetExponent_eq, totalExponent]
  omega

/-- What is left of it has the bits of a double. -/
theorem exists_rounded {m : ℕ} {e : ℤ} (fine : 2 ^ 52 ≤ m ∨ e ≤ -1074) (a : Accuracy) :
    ∃ k : ℕ, shiftToTargetExponent Format.binary64 m e a =
        (ExtendedMantissa.ofMantissaAndAccuracy m a >>> k, e + k) ∧
      (ExtendedMantissa.ofMantissaAndAccuracy m a >>> k).mantissa = m / 2 ^ k ∧
      Rounded (m / 2 ^ k) (e + k) := by
  obtain ⟨k, shifted, target⟩ := exists_shift fine a
  refine ⟨k, shifted, by rw [mantissa_shiftRight, mantissa_ofMantissaAndAccuracy], ?_, ?_, ?_⟩
  · rw [Nat.div_lt_iff_lt_mul (by positivity), ← pow_add]
    exact Nat.lt_log2_self.trans_le (Nat.pow_le_pow_right (by norm_num) (by omega))
  · omega
  · by_cases least : e + k = -1074
    · exact .inr least
    · have positive : m ≠ 0 := by
        rintro rfl
        rw [Nat.log2_zero] at target
        omega
      have bits : 52 + k = m.log2 := by omega
      rw [Nat.le_div_iff_mul_le (by positivity), ← pow_add, bits]
      exact .inl (Nat.log2_self_le positive)

/-! ## Bounds that are doubles -/

/-- The numbers that are doubles, or would be if exponents could be larger. -/
def Precise (b : ℚ) : Prop :=
  ∃ (n : ℕ) (k : ℤ), n < 2 ^ 53 ∧ -1074 ≤ k ∧ b = n * 2 ^ k

/-- The numbers that are doubles. -/
def Representable (b : ℚ) : Prop :=
  ∃ (n : ℕ) (k : ℤ), n < 2 ^ 53 ∧ -1074 ≤ k ∧ k ≤ 971 ∧ b = n * 2 ^ k

/-- At most so far from zero, and a double. -/
inductive Below (b : ℚ) : UnpackedFloat → Prop where
  | zero {s : Sign} : 0 ≤ b → Below b (.zero s)
  | finite {s : Sign} {m : ℕ} {e : ℤ} {positive : 0 < m} :
    Canonical m e → m * 2 ^ e ≤ b → Below b (.finite s m e positive)

theorem two_zpow_pos (k : ℤ) : (0 : ℚ) < 2 ^ k :=
  zpow_pos (by norm_num) k

theorem two_zpow_le_iff {j k : ℤ} : (2 : ℚ) ^ j ≤ 2 ^ k ↔ j ≤ k :=
  zpow_le_zpow_iff_right₀ (by norm_num)

theorem two_zpow_lt_iff {j k : ℤ} : (2 : ℚ) ^ j < 2 ^ k ↔ j < k :=
  zpow_lt_zpow_iff_right₀ (by norm_num)

theorem two_zpow_add_natCast (e : ℤ) (k : ℕ) : (2 : ℚ) ^ (e + k) = 2 ^ k * 2 ^ e := by
  rw [zpow_add₀ (by norm_num), zpow_natCast, mul_comm]

theorem mul_two_zpow_lt {n bits : ℕ} (h : n < 2 ^ bits) (k : ℤ) :
    (n : ℚ) * 2 ^ k < 2 ^ (k + bits) := by
  have h : (n : ℚ) < 2 ^ bits := by exact_mod_cast h
  rw [two_zpow_add_natCast]
  exact (mul_lt_mul_iff_left₀ (two_zpow_pos k)).2 h

theorem two_zpow_le_mul {n bits : ℕ} (h : 2 ^ bits ≤ n) (k : ℤ) :
    (2 : ℚ) ^ (k + bits) ≤ n * 2 ^ k := by
  have h : (2 : ℚ) ^ bits ≤ n := by exact_mod_cast h
  rw [two_zpow_add_natCast]
  exact (mul_le_mul_iff_left₀ (two_zpow_pos k)).2 h

theorem Representable.lt {b : ℚ} (h : Representable b) : b < 2 ^ (1024 : ℤ) := by
  obtain ⟨n, k, short, -, high, rfl⟩ := h
  exact (mul_two_zpow_lt short k).trans_le (two_zpow_le_iff.2 (by push_cast; omega))

/-- Few enough steps of a grid lead to a double, unless they lead too far. -/
structure Fits (n : ℕ) (k : ℤ) : Prop where
  few : n < 2 ^ 53
  low : -1074 ≤ k
  lt : (n : ℚ) * 2 ^ k < 2 ^ (1024 : ℤ)

theorem Fits.representable {n : ℕ} {k : ℤ} (h : Fits n k) : Representable (n * 2 ^ k) := by
  obtain ⟨few, low, lt⟩ := h
  rcases le_or_gt k 971 with high | high
  · exact ⟨n, k, few, low, high, rfl⟩
  -- Coarser grids than the coarsest one of doubles are part of that one.
  obtain ⟨j, rfl⟩ := Int.le.dest high.le
  have same : (n : ℚ) * 2 ^ (971 + (j : ℤ)) = (n * 2 ^ j : ℕ) * 2 ^ (971 : ℤ) := by
    rw [two_zpow_add_natCast, Nat.cast_mul, Nat.cast_pow, Nat.cast_ofNat, mul_assoc]
  refine ⟨n * 2 ^ j, 971, ?_, by norm_num, le_rfl, same⟩
  have top : (2 : ℚ) ^ (1024 : ℤ) = (2 ^ 53 : ℕ) * 2 ^ (971 : ℤ) := by
    rw [Nat.cast_pow, Nat.cast_ofNat, ← two_zpow_add_natCast]
    rfl
  rw [same, top, mul_lt_mul_iff_left₀ (two_zpow_pos 971)] at lt
  exact_mod_cast lt

theorem Fits.mono {m n : ℕ} {k : ℤ} (h : Fits n k) (le : m ≤ n) : Fits m k := by
  have le' : (m : ℚ) ≤ n := by exact_mod_cast le
  exact ⟨le.trans_lt h.few, h.low,
    ((mul_le_mul_iff_left₀ (two_zpow_pos k)).2 le').trans_lt h.lt⟩

theorem fits_of_bits {n bits : ℕ} {k : ℤ} (few : n < 2 ^ bits) (short : bits ≤ 53) (low : -1074 ≤ k)
    (high : k + bits ≤ 1024) : Fits n k :=
  ⟨few.trans_le (Nat.pow_le_pow_right (by norm_num) short), low,
    (mul_two_zpow_lt few k).trans_le (two_zpow_le_iff.2 high)⟩

theorem fits_zero {n : ℕ} (few : n < 2 ^ 53) : Fits n 0 :=
  fits_of_bits few le_rfl (by norm_num) (by norm_num)

theorem representable_natCast {n : ℕ} (few : n < 2 ^ 53) : Representable n := by
  have h := (fits_zero few).representable
  rwa [zpow_zero, mul_one] at h

theorem representable_zero : Representable 0 := by
  exact_mod_cast representable_natCast (n := 0) (by norm_num)

theorem representable_one : Representable 1 := by
  exact_mod_cast representable_natCast (n := 1) (by norm_num)

/-- A double lies on the grid of every double that is no longer than it. -/
theorem Precise.exists_grid {b : ℚ} (h : Precise b) {t : ℤ}
    (fine : t ≤ -1074 ∨ 2 ^ (t + 52) ≤ b) : ∃ n : ℕ, b = n * 2 ^ t := by
  obtain ⟨n, k, short, low, rfl⟩ := h
  have finer : t ≤ k := by
    rcases fine with least | long
    · omega
    · have bits := two_zpow_lt_iff.1 (long.trans_lt (mul_two_zpow_lt short k))
      omega
  obtain ⟨j, rfl⟩ := Int.le.dest finer
  refine ⟨n * 2 ^ j, ?_⟩
  rw [two_zpow_add_natCast, Nat.cast_mul, Nat.cast_pow, Nat.cast_ofNat, mul_assoc]

theorem Representable.precise {b : ℚ} (h : Representable b) : Precise b := by
  obtain ⟨n, k, short, low, -, same⟩ := h
  exact ⟨n, k, short, low, same⟩

theorem mantissa_le_ceiling (em : ExtendedMantissa) : em.mantissa ≤ ceiling em :=
  Nat.le_add_right ..

theorem ceiling_le_succ (em : ExtendedMantissa) : ceiling em ≤ em.mantissa + 1 :=
  Nat.add_le_add_left (Bool.toNat_le _) _

/-- A mantissa that was shifted keeps the bits of a double when it is rounded, if
need be by another shift. -/
theorem exists_final {em : ExtendedMantissa} {t : ℤ} (rounded : Rounded em.mantissa t) :
    ∃ (m : ℕ) (e : ℤ), Rounded m e ∧ (m : ℚ) * 2 ^ e = em.roundedMantissa * 2 ^ t ∧
      shiftToTargetExponent Format.binary64 em.roundedMantissa t .exact =
        (⟨m, false, false⟩, e) := by
  obtain ⟨short, low, full⟩ := rounded
  have lower := mantissa_le_rounded em
  have upper := (rounded_le_ceiling em).trans (ceiling_le_succ em)
  generalize em.roundedMantissa = r at *
  rcases Nat.lt_or_ge r (2 ^ 53) with fits | grown
  · exact ⟨r, t, ⟨fits, low, full.imp_left fun full => full.trans lower⟩, rfl,
      shiftToTargetExponent_of_lt fits low⟩
  · obtain rfl : r = 2 ^ 53 := by omega
    refine ⟨2 ^ 52, t + 1, ⟨by norm_num, by omega, .inl le_rfl⟩, ?_,
      shiftToTargetExponent_two_pow low⟩
    rw [show t + 1 = t + (1 : ℕ) from rfl, two_zpow_add_natCast, ← mul_assoc]
    norm_num

theorem below_of_rounded {b : ℚ} {em : ExtendedMantissa} {t : ℤ} (lt : b < 2 ^ (1024 : ℤ))
    (rounded : Rounded em.mantissa t) (le : (ceiling em : ℚ) * 2 ^ t ≤ b) {s : Sign} :
    Below b
      (let final := shiftToTargetExponent Format.binary64 em.roundedMantissa t .exact
      if h : final.1.mantissa = 0 then .zero s
      else .finite s final.1.mantissa final.2 (Nat.pos_of_ne_zero h)) := by
  obtain ⟨m, e, final, same, shifted⟩ := exists_final rounded
  have upper : (em.roundedMantissa : ℚ) ≤ ceiling em := by exact_mod_cast rounded_le_ceiling em
  have le : (m : ℚ) * 2 ^ e ≤ b :=
    same.trans_le (((mul_le_mul_iff_left₀ (two_zpow_pos t)).2 upper).trans le)
  rw [shifted]
  dsimp only
  split
  · rename_i zero
    exact .zero (by rw [zero] at le; simpa using le)
  · refine .finite (final.canonical ?_) le
    rcases final.full with full | least
    · have bits := two_zpow_lt_iff.1 ((two_zpow_le_mul full e).trans_lt (le.trans_lt lt))
      omega
    · omega

/-- A shift cuts something off, or nothing. -/
theorem shifted_mul_le (m k : ℕ) (e : ℤ) : ((m / 2 ^ k : ℕ) : ℚ) * 2 ^ (e + k) ≤ m * 2 ^ e := by
  have cut : ((m / 2 ^ k * 2 ^ k : ℕ) : ℚ) ≤ m := by exact_mod_cast Nat.div_mul_le_self m (2 ^ k)
  rw [two_zpow_add_natCast, ← mul_assoc]
  refine (mul_le_mul_iff_left₀ (two_zpow_pos e)).2 ?_
  exact_mod_cast cut

/-- Rounding never goes beyond a double. -/
theorem below_roundWithAccuracy {b : ℚ} (h : Representable b) {m : ℕ} {e : ℤ} {a : Accuracy}
    (fine : 2 ^ 52 ≤ m ∨ e ≤ -1074)
    (le : (ceiling (ExtendedMantissa.ofMantissaAndAccuracy m a) : ℚ) * 2 ^ e ≤ b) (s : Sign) :
    Below b (roundWithAccuracy Format.binary64 s m e a) := by
  obtain ⟨k, shifted, mantissa, rounded⟩ := exists_rounded fine a
  obtain ⟨n, grid⟩ : ∃ n : ℕ, b = n * 2 ^ (e + k) := by
    refine h.precise.exists_grid (rounded.full.symm.imp le_of_eq fun full => ?_)
    have floor := mantissa_le_ceiling (ExtendedMantissa.ofMantissaAndAccuracy m a)
    rw [mantissa_ofMantissaAndAccuracy] at floor
    have floor : (m : ℚ) ≤ ceiling (ExtendedMantissa.ofMantissaAndAccuracy m a) := by
      exact_mod_cast floor
    calc (2 : ℚ) ^ (e + k + 52)
      _ ≤ (m / 2 ^ k : ℕ) * 2 ^ (e + k) := two_zpow_le_mul full (e + k)
      _ ≤ m * 2 ^ e := shifted_mul_le m k e
      _ ≤ ceiling (ExtendedMantissa.ofMantissaAndAccuracy m a) * 2 ^ e :=
        (mul_le_mul_iff_left₀ (two_zpow_pos e)).2 floor
      _ ≤ b := le
  rw [← mantissa] at rounded
  rw [roundWithAccuracy, shifted]
  refine below_of_rounded h.lt rounded ?_
  have up : ceiling (ExtendedMantissa.ofMantissaAndAccuracy m a) ≤ 2 ^ k * n := by
    rw [grid, two_zpow_add_natCast, ← mul_assoc, mul_le_mul_iff_left₀ (two_zpow_pos e),
      mul_comm (n : ℚ)] at le
    exact_mod_cast le
  rw [grid, mul_le_mul_iff_left₀ (two_zpow_pos _)]
  exact_mod_cast ceiling_shiftRight k up

end Periapsis.Double
