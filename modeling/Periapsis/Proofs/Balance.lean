import Periapsis.Proofs.Double.Square
import Periapsis.Proofs.Overflow

/-!
# A Sun that makes up for nothing

A Sun at rest leaves the whole momentum over, and so its system is not balanced.
`isBalanced_at_rest` tells when this is noticed. The balance compares lengths of
vectors, which are roots of sums of squares, and a root is more than its share
unless it is zero or infinite (`sqrt_le_iff`). Both happen to vectors that are
neither: squares of doubles leave the range of doubles halfway to its ends
(`Vec3.isFinite_dot`, `Vec3.unpack_dot_eq_zero`), and beyond that every momentum
counts as balanced (`isBalanced_far_off`).
-/

namespace Periapsis

open Double Float.Model Float.Model.UnpackedFloat

/-! ## Lengths -/

theorem within_tolerance : Double.Within (Solution.tolerance : Float) (2 ^ (-1 : ℤ)) := by
  decide +kernel

/-- A root that is neither zero nor infinite is more than its share. -/
theorem not_sqrt_le {x : Float} {m : ℕ} {e : ℤ} {positive : 0 < m}
    (hx : x.toModel.unpack = .finite .positive m e positive) :
    ¬ x.sqrt ≤ x.sqrt * Solution.tolerance := by
  obtain ⟨n, t, positive', canonical, least, root⟩ := exists_sqrt (canonical_of_unpack hx) positive
  have hr : x.sqrt.toModel.unpack = .finite .positive n t positive' := by
    rw [unpack_sqrt, hx, root, Double.unpack_pack canonical]
  have long := two_zpow_lt_iff.1 (least.trans_lt (mul_two_zpow_lt canonical.short t))
  -- The root is far from the least double, so that its half is a double, too.
  have half : Representable (n * 2 ^ (t - 1)) :=
    ⟨n, t - 1, canonical.short, by omega, by have := canonical.high; omega, rfl⟩
  have share : (n : ℚ) * 2 ^ t * 2 ^ (-1 : ℤ) = n * 2 ^ (t - 1) := by
    rw [mul_assoc, ← zpow_add₀ (by norm_num)]
    rfl
  have whole : Double.Within x.sqrt (n * 2 ^ t) :=
    within_iff_below.2 (hr ▸ .finite canonical le_rfl)
  refine not_le_of_within hr (whole.mul within_tolerance half share.le) ?_
  refine (mul_lt_mul_iff_right₀ (Nat.cast_pos.2 positive')).2 (two_zpow_lt_iff.2 (by omega))

/-- The root of what is not negative is within its own share exactly when it is
zero or infinite. -/
theorem sqrt_le_iff {x : Float} (hx : AtLeast x 0) :
    x.sqrt ≤ x.sqrt * Solution.tolerance ↔ ¬ (x.isFinite = true ∧ 0 < x) := by
  unfold AtLeast at hx
  have finite : x.isFinite = x.toModel.unpack.isFinite := rfl
  rw [finite, lt_iff, unpack_zero]
  cases hu : x.toModel.unpack with
  | notANumber =>
    rw [hu] at hx
    cases hx
  | zero s =>
    rw [hu] at hx
    cases hx
    rw [le_iff, unpack_mul, unpack_sqrt, hu]
    decide +kernel
  | infinity s =>
    rw [hu] at hx
    cases hx
    rw [le_iff, unpack_mul, unpack_sqrt, hu]
    decide +kernel
  | finite s m e positive =>
    rw [hu] at hx
    cases hx
    exact iff_of_false (not_sqrt_le hu) (not_not_intro ⟨rfl, rfl⟩)

/-! ## A Sun at rest -/

theorem exists_unpack_zero {x : Float} (h : (x == 0) = true) : ∃ s, x.toModel.unpack = .zero s := by
  replace h : x.toModel.unpack.beq (.zero .positive) = true := h
  generalize x.toModel.unpack = u at h
  cases u with
  | notANumber => cases h
  | infinity s => cases s <;> cases h
  | zero s => exact ⟨s, rfl⟩
  | finite s m e positive => cases s <;> cases h

theorem unpack_pack_zero (s : Sign) : (Float.Model.pack (.zero s)).unpack = .zero s := by
  cases s <;> rfl

/-- What a Sun at rest adds to a momentum. -/
theorem exists_unpack_mul_zero {v m : Float} (hv : (v == 0) = true) (hm : m.isFinite = true) :
    ∃ s, (v * m).toModel.unpack = .zero s := by
  obtain ⟨s, hs⟩ := exists_unpack_zero hv
  replace hm : m.toModel.unpack.isFinite = true := hm
  rw [unpack_mul, hs]
  generalize m.toModel.unpack = u at hm
  cases u with
  | notANumber | infinity => cases hm
  | zero | finite => exact ⟨_, unpack_pack_zero _⟩

/-- Adding a zero changes no more than the sign of another zero, and so no square. -/
theorem mul_self_add_zero {p q : Float} (hp : p.isFinite = true) {s : Sign}
    (hq : q.toModel.unpack = .zero s) : (p + q) * (p + q) = p * p := by
  suffices same : UnpackedFloat.mul Format.binary64 (p + q).toModel.unpack (p + q).toModel.unpack =
      UnpackedFloat.mul Format.binary64 p.toModel.unpack p.toModel.unpack from
    congrArg (fun u => Float.ofModel (Float.Model.pack u)) same
  replace hp : p.toModel.unpack.isFinite = true := hp
  rw [unpack_add, hq]
  cases hu : p.toModel.unpack with
  | notANumber | infinity => rw [hu] at hp; cases hp
  | zero s' => cases s <;> cases s' <;> rfl
  | finite s' m e positive =>
    have unchanged : UnpackedFloat.add Format.binary64 (.finite s' m e positive) (.zero s) =
      .finite s' m e positive := rfl
    rw [unchanged, Double.unpack_pack (canonical_of_unpack hu)]

/-! ## Squares of vectors -/

namespace Vec3

variable {v : Vec3 Float}

theorem Finite.within (finite : v.Finite) {b : ℚ} (short : ∀ a ∈ [v.x, v.y, v.z], size a ≤ b) :
    v.Within b := by
  simp only [List.forall_mem_cons] at short
  obtain ⟨x, y, z, -⟩ := short
  exact ⟨⟨finite.x, x⟩, ⟨finite.y, y⟩, finite.z, z⟩

/-- A sum of squares is at least each of them. -/
theorem atLeast_dot (finite : v.Finite) {b : ℚ} (h : Precise b)
    (le : ∃ a ∈ [v.x, v.y, v.z], b ≤ size a * size a) : AtLeast (v.dot v) b := by
  have square {a : Float} (finite : a.isFinite = true) : AtLeast (a * a) 0 :=
    .mul_self finite precise_zero (mul_self_nonneg _)
  have x := square finite.x
  have y := square finite.y
  have z := square finite.z
  simp only [List.mem_cons, List.not_mem_nil, or_false, exists_eq_or_imp, exists_eq_left] at le
  rcases le with le | le | le
  · have two := (AtLeast.mul_self finite.x h le).add y h (add_zero b).ge
    exact two.add z h (add_zero b).ge
  · have two := x.add (AtLeast.mul_self finite.y h le) h (zero_add b).ge
    exact two.add z h (add_zero b).ge
  · exact (x.add y precise_zero (zero_add 0).ge).add (AtLeast.mul_self finite.z h le) h (zero_add b).ge

/-- Where a component reaches a power of two, the sum reaches the square of that. -/
theorem atLeast_dot_two_zpow (finite : v.Finite) {j : ℤ} (low : -1074 ≤ j + j)
    (long : ∃ a ∈ [v.x, v.y, v.z], 2 ^ j ≤ size a) : AtLeast (v.dot v) (2 ^ (j + j)) := by
  obtain ⟨a, mem, long⟩ := long
  refine atLeast_dot finite (precise_two_zpow low) ⟨a, mem, ?_⟩
  calc (2 : ℚ) ^ (j + j)
    _ = 2 ^ j * 2 ^ j := zpow_add₀ (by norm_num) ..
    _ ≤ size a * size a := mul_self_le_mul_self (two_zpow_pos j).le long

theorem atLeast_dot_zero (finite : v.Finite) : AtLeast (v.dot v) 0 :=
  atLeast_dot finite precise_zero ⟨v.x, List.mem_cons_self, mul_self_nonneg _⟩

/-- Components that are not beyond this power of two leave room for their squares. -/
theorem isFinite_dot (h : v.Within (2 ^ (511 : ℤ))) : (v.dot v).isFinite = true := by
  have fits {n : ℕ} (few : n < 2 ^ 2) : Fits n 1022 :=
    fits_of_bits few (by norm_num) (by norm_num) (by norm_num)
  have square {a : Float} (ha : Double.Within a (2 ^ (511 : ℤ))) :
      Double.Within (a * a) ((1 : ℕ) * 2 ^ (1022 : ℤ)) := by
    refine ha.mul ha (fits (by norm_num)).representable (le_of_eq ?_)
    rw [Nat.cast_one, one_mul, ← zpow_add₀ (by norm_num)]
    rfl
  have sum {a b : Float} {m n : ℕ} (ha : Double.Within a (m * 2 ^ (1022 : ℤ)))
      (hb : Double.Within b (n * 2 ^ (1022 : ℤ))) (few : m + n < 2 ^ 2) :
      Double.Within (a + b) ((m + n : ℕ) * 2 ^ (1022 : ℤ)) := by
    refine ha.add hb (fits few).representable (le_of_eq ?_)
    rw [Nat.cast_add, add_mul]
  have two := sum (square h.x) (square h.y) (by norm_num)
  exact (sum two (square h.z) (by norm_num)).isFinite

theorem unpack_dot_eq_zero (h : v.Within (2 ^ (-538 : ℤ))) :
    (v.dot v).toModel.unpack = .zero .positive := by
  have sum {a b : Float} (ha : a.toModel.unpack = .zero .positive)
      (hb : b.toModel.unpack = .zero .positive) : (a + b).toModel.unpack = .zero .positive := by
    rw [unpack_add, ha, hb]
    rfl
  exact sum (sum (unpack_mul_self_eq_zero h.x) (unpack_mul_self_eq_zero h.y))
    (unpack_mul_self_eq_zero h.z)

end Vec3

namespace Solution

variable {s : Solution Float}

/-- The residual of a Sun at rest is as long as the momentum. -/
theorem magnitude_residual (momentum : s.momentum.Finite) (sunMass : s.sunMass.isFinite = true)
    (rest : (s.sunVelocity == 0) = true) : s.residual.magnitude = s.momentum.magnitude := by
  have zeros : (s.sunVelocity.x == 0 && (s.sunVelocity.y == 0 && s.sunVelocity.z == 0)) = true :=
    rest
  simp only [Bool.and_eq_true] at zeros
  obtain ⟨x, y, z⟩ := zeros
  obtain ⟨_, x⟩ := exists_unpack_mul_zero x sunMass
  obtain ⟨_, y⟩ := exists_unpack_mul_zero y sunMass
  obtain ⟨_, z⟩ := exists_unpack_mul_zero z sunMass
  have squares : s.residual.dot s.residual = s.momentum.dot s.momentum :=
    congrArg₂ (· + ·) (congrArg₂ (· + ·) (mul_self_add_zero momentum.x x)
      (mul_self_add_zero momentum.y y)) (mul_self_add_zero momentum.z z)
  rw [Vec3.magnitude, Vec3.magnitude, squares]

theorem isBalanced_eq_false_iff (momentum : s.momentum.Finite)
    (sunMass : s.sunMass.isFinite = true) (rest : (s.sunVelocity == 0) = true) :
    s.isBalanced = false ↔
      (s.momentum.dot s.momentum).isFinite = true ∧ 0 < s.momentum.dot s.momentum := by
  rw [isBalanced, magnitude_residual momentum sunMass rest, decide_eq_false_iff_not]
  exact (not_congr (sqrt_le_iff (Vec3.atLeast_dot_zero momentum))).trans not_not

end Solution

/-- With a Sun at rest the whole momentum is left over. This is noticed exactly when
the squares of its components neither add up to more than a double can hold nor
vanish: whenever the largest component is between two powers of two, and never when
one is beyond the next such power or all are closer to zero. -/
theorem isBalanced_at_rest {s : Solution Float} (momentum : s.momentum.Finite)
    (sunMass : s.sunMass.isFinite = true) (rest : (s.sunVelocity == 0) = true) :
    let squares := s.momentum.dot s.momentum
    let components := [s.momentum.x, s.momentum.y, s.momentum.z]
    (s.isBalanced = false ↔ squares.isFinite = true ∧ 0 < squares) ∧
    ((∃ c ∈ components, 2 ^ (-537 : ℤ) ≤ size c) ∧ (∀ c ∈ components, size c ≤ 2 ^ (511 : ℤ)) →
      s.isBalanced = false) ∧
    ((∃ c ∈ components, 2 ^ (512 : ℤ) ≤ size c) ∨ (∀ c ∈ components, size c ≤ 2 ^ (-538 : ℤ)) →
      s.isBalanced = true) := by
  intro squares components
  have noticed := s.isBalanced_eq_false_iff momentum sunMass rest
  refine ⟨noticed, fun ⟨long, short⟩ => noticed.2 ⟨?_, ?_⟩, fun outside => ?_⟩
  · exact Vec3.isFinite_dot (momentum.within short)
  · exact (Vec3.atLeast_dot_two_zpow momentum (by norm_num) long).pos (two_zpow_pos _)
  · refine Bool.of_not_eq_false (mt noticed.1 ?_)
    rcases outside with long | short
    · have infinite := (Vec3.atLeast_dot_two_zpow momentum (by norm_num) long).not_isFinite
      exact fun finite => Bool.false_ne_true (infinite.symm.trans finite.1)
    · have nothing : squares.toModel.unpack = .zero .positive :=
        Vec3.unpack_dot_eq_zero (momentum.within short)
      rw [lt_iff, nothing]
      exact fun finite => Bool.false_ne_true finite.2

/-- A Sun at rest, whatever the signs of the zeros in its velocity. -/
theorem isBalanced_at_rest_unequal :
    let s : Solution Float := ⟨[], ⟨3e30, -4e30, 0⟩, 2e30, ⟨0, -0, 0⟩⟩
    s.momentum.Finite ∧ s.sunMass.isFinite = true ∧ (s.sunVelocity == 0) = true ∧
      s.isBalanced = false := by
  intro s
  have momentum : s.momentum.Finite := by decide +kernel
  have sunMass : s.sunMass.isFinite = true := by decide +kernel
  have rest : (s.sunVelocity == 0) = true := by decide +kernel
  refine ⟨momentum, sunMass, rest, (isBalanced_at_rest momentum sunMass rest).2.1 ⟨?_, ?_⟩⟩
  all_goals decide +kernel

/-- A body so slow, under a Sun so heavy, that the Sun stays at rest. -/
def feather : Table Float :=
  ⟨[("feather", ⟨1, 1, 1e-200, ⟨0, 0, 0⟩, none, none⟩)]⟩

/-- At both ends of the range of doubles a momentum that nothing makes up for counts
as balanced: in a system that is solved, and in one that is put together. -/
theorem isBalanced_far_off :
    (Reachable feather ∧ ∃ s, feather.solve 1e200 = .ok s ∧ s.Finite ∧
      (s.momentum == 0) = false ∧ (s.sunVelocity == 0) = true ∧ s.isBalanced = true) ∧
    let s : Solution Float := ⟨[], ⟨1e200, 0, 0⟩, 1, 0⟩
    s.Finite ∧ (s.momentum == 0) = false ∧ (s.sunVelocity == 0) = true ∧ s.isBalanced = true := by
  have reachable : Reachable feather :=
    .ofEntries ((Table.ofEntries_eq_ok_iff feather.entries _).2 ⟨by decide +kernel, rfl⟩)
  have valid : (1e200 : Float).isFinite = true ∧ ¬ (1e200 : Float) ≤ 0 := by decide +kernel
  obtain ⟨s, solved⟩ := exists_solve reachable.sound valid
  have vanishes : ∀ s ∈ (feather.solve 1e200).toOption, s.Finite ∧
      (s.momentum == 0) = false ∧ (s.sunVelocity == 0) = true ∧ s.isBalanced = true := by
    decide +kernel
  refine ⟨⟨reachable, s, solved, vanishes s (by rw [solved]; rfl)⟩, ?_⟩
  decide +kernel

end Periapsis
