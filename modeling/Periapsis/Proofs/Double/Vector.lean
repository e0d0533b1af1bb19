import Periapsis.Proofs.Double.Arithmetic
import Periapsis.Rotation

/-!
# Bounds of vectors and turns

How far the components of a vector get when it is added, multiplied and turned.
Every product of a matrix is a sum of three terms, so the bounds of two factors
count three times (`Vec3.Within.dot`). The entries of one turn are not beyond
one (`within_turn`), and so a vector gets at most 27 times as far by all three
turns of an orientation (`within_apply`).

Of sine and cosine nothing else is asked than that they are not beyond one
(`Turns`).
-/

namespace Periapsis

open Double

/-! ## Finite vectors -/

/-- All components of a vector are finite. -/
structure Vec3.Finite (v : Vec3 Float) : Prop where
  x : v.x.isFinite = true
  y : v.y.isFinite = true
  z : v.z.isFinite = true

instance (v : Vec3 Float) : Decidable v.Finite :=
  decidable_of_iff (v.x.isFinite = true ∧ v.y.isFinite = true ∧ v.z.isFinite = true)
    ⟨fun ⟨x, y, z⟩ => ⟨x, y, z⟩, fun ⟨x, y, z⟩ => ⟨x, y, z⟩⟩

namespace Vec3

theorem Finite.of_add {v w : Vec3 Float} (h : (v + w).Finite) : v.Finite ∧ w.Finite :=
  ⟨⟨(isFinite_of_add h.x).1, (isFinite_of_add h.y).1, (isFinite_of_add h.z).1⟩,
    (isFinite_of_add h.x).2, (isFinite_of_add h.y).2, (isFinite_of_add h.z).2⟩

theorem Finite.of_mul {v : Vec3 Float} {a : Float} (h : (v * a).Finite) : v.Finite :=
  ⟨(isFinite_of_mul h.x).1, (isFinite_of_mul h.y).1, (isFinite_of_mul h.z).1⟩

/-- A sum that is finite had no term that was not. -/
theorem finite_of_foldl {β : Type} (f : β → Vec3 Float) {items : List β} {start : Vec3 Float}
    (h : (items.foldl (fun sum item => sum + f item) start).Finite) :
    start.Finite ∧ ∀ item ∈ items, (f item).Finite := by
  induction items generalizing start with
  | nil => exact ⟨h, nofun⟩
  | cons item items ih =>
    obtain ⟨sum, rest⟩ := ih h
    exact ⟨sum.of_add.1, List.forall_mem_cons.2 ⟨sum.of_add.2, rest⟩⟩

end Vec3

/-! ## Vectors and matrices within bounds -/

/-- All components are finite, and at most so far from zero. -/
structure Vec3.Within (v : Vec3 Float) (b : ℚ) : Prop where
  x : Double.Within v.x b
  y : Double.Within v.y b
  z : Double.Within v.z b

structure Matrix3.Within (m : Matrix3 Float) (b : ℚ) : Prop where
  row1 : m.row1.Within b
  row2 : m.row2.Within b
  row3 : m.row3.Within b

theorem Vec3.within_zero : (0 : Vec3 Float).Within 0 := by
  refine ⟨?_, ?_, ?_⟩ <;> decide +kernel

namespace Vec3.Within

variable {v w : Vec3 Float} {a b : ℚ}

theorem finite (h : v.Within b) : v.Finite :=
  ⟨h.x.isFinite, h.y.isFinite, h.z.isFinite⟩

theorem neg (h : v.Within b) : (-v).Within b :=
  ⟨h.x.neg, h.y.neg, h.z.neg⟩

theorem add {m n : ℕ} {k : ℤ} (hv : v.Within (m * 2 ^ k)) (hw : w.Within (n * 2 ^ k))
    (fits : Fits (m + n) k) : (v + w).Within ((m + n : ℕ) * 2 ^ k) := by
  have h := fits.representable
  have sum : (m : ℚ) * 2 ^ k + n * 2 ^ k = (m + n : ℕ) * 2 ^ k := by
    rw [Nat.cast_add, add_mul]
  exact ⟨hv.x.add hw.x h sum.le, hv.y.add hw.y h sum.le, hv.z.add hw.z h sum.le⟩

theorem mul {c : ℚ} (hv : v.Within a) {y : Float} (hy : Double.Within y b) (h : Representable c)
    (le : a * b ≤ c) : (v * y).Within c :=
  ⟨hv.x.mul hy h le, hv.y.mul hy h le, hv.z.mul hy h le⟩

theorem div {c : ℚ} (hv : v.Within a) {y : Float} (positive : 0 < size y) (h : Representable c)
    (le : a ≤ c * size y) : (v / y).Within c :=
  ⟨hv.x.div positive h le, hv.y.div positive h le, hv.z.div positive h le⟩

/-- The three terms of a product are as long as each other at most. -/
theorem dot {m n : ℕ} {k : ℤ} (hv : v.Within m) (hw : w.Within (n * 2 ^ k))
    (fits : Fits (3 * (m * n)) k) : Double.Within (v.dot w) ((3 * (m * n) : ℕ) * 2 ^ k) := by
  have term {x y : Float} (hx : Double.Within x m) (hy : Double.Within y (n * 2 ^ k)) :
      Double.Within (x * y) ((m * n : ℕ) * 2 ^ k) := by
    refine hx.mul hy (fits.mono (by omega)).representable ?_
    push_cast
    rw [mul_assoc]
  have two : Double.Within (v.x * w.x + v.y * w.y) ((2 * (m * n) : ℕ) * 2 ^ k) := by
    refine (term hv.x hw.x).add (term hv.y hw.y) (fits.mono (by omega)).representable ?_
    push_cast
    rw [two_mul, add_mul]
  refine two.add (term hv.z hw.z) fits.representable (le_of_eq ?_)
  push_cast
  ring

/-- Terms that are bounded alike add up to as many times their bound. -/
theorem foldl {β : Type} {f : β → Vec3 Float} {items : List β} {start : Vec3 Float}
    {m n : ℕ} {k : ℤ} (hstart : start.Within (m * 2 ^ k))
    (h : ∀ item ∈ items, (f item).Within (n * 2 ^ k)) (fits : Fits (m + n * items.length) k) :
    (items.foldl (fun sum item => sum + f item) start).Within
      ((m + n * items.length : ℕ) * 2 ^ k) := by
  induction items generalizing start m with
  | nil => exact hstart
  | cons item items ih =>
    obtain ⟨first, rest⟩ := List.forall_mem_cons.1 h
    have total : m + n + n * items.length = m + n * (items.length + 1) := by ring
    rw [List.length_cons, ← total] at fits ⊢
    exact ih (hstart.add first (fits.mono (Nat.le_add_right ..))) rest fits

end Vec3.Within

namespace Matrix3.Within

variable {m n : Matrix3 Float} {a b : ℕ}

theorem transpose {b : ℚ} (h : m.Within b) : m.transpose.Within b :=
  ⟨⟨h.row1.x, h.row2.x, h.row3.x⟩, ⟨h.row1.y, h.row2.y, h.row3.y⟩,
    h.row1.z, h.row2.z, h.row3.z⟩

theorem apply {v : Vec3 Float} {k : ℤ} (hm : m.Within a) (hv : v.Within (b * 2 ^ k))
    (fits : Fits (3 * (a * b)) k) : (m * v).Within ((3 * (a * b) : ℕ) * 2 ^ k) :=
  ⟨hm.row1.dot hv fits, hm.row2.dot hv fits, hm.row3.dot hv fits⟩

theorem mul (hm : m.Within a) (hn : n.Within b) (fits : Fits (3 * (a * b)) 0) :
    (m * n).Within (3 * (a * b) : ℕ) := by
  have one (b : ℕ) : (b : ℚ) * 2 ^ (0 : ℤ) = b := by rw [zpow_zero, mul_one]
  have columns : n.transpose.Within (b * 2 ^ (0 : ℤ)) := by
    rw [one]
    exact hn.transpose
  rw [← one]
  have row {r : Vec3 Float} (hr : r.Within a) :
      Vec3.Within ⟨r.dot n.transpose.row1, r.dot n.transpose.row2, r.dot n.transpose.row3⟩
        ((3 * (a * b) : ℕ) * 2 ^ (0 : ℤ)) :=
    ⟨hr.dot columns.row1 fits, hr.dot columns.row2 fits, hr.dot columns.row3 fits⟩
  exact ⟨row hm.row1, row hm.row2, row hm.row3⟩

end Matrix3.Within

/-! ## Turns -/

/-- Sine and cosine do not leave the range from minus one to one. No angle at
all is turned without them. -/
def Turns (degrees : Float) : Prop :=
  (Scalar.radians degrees == 0) = true ∨
    Double.Within (Scalar.sin (Scalar.radians degrees)) 1 ∧
      Double.Within (Scalar.cos (Scalar.radians degrees)) 1

theorem within_zero : Double.Within (0 : Float) 0 := by
  decide +kernel

theorem within_one : Double.Within (1 : Float) 1 := by
  decide +kernel

/-- The entries of a turn on the diagonal, with a component of the axis. -/
theorem within_diagonal {i c : Float} (hi : i = 0 ∨ i = 1) (hc : Double.Within c 1) :
    Double.Within (i * i + (1 - i * i) * c) 1 := by
  rcases hi with rfl | rfl
  · have square : (0 : Float) * 0 = 0 ∧ (1 : Float) - 0 = 1 := by decide +kernel
    rw [square.1, square.2]
    have rest := within_one.mul hc representable_one (by norm_num)
    exact within_zero.add rest representable_one (by norm_num)
  · have square : (1 : Float) * 1 = 1 ∧ (1 : Float) - 1 = 0 := by decide +kernel
    rw [square.1, square.2]
    have rest := within_zero.mul hc representable_zero (by norm_num)
    exact within_one.add rest representable_one (by norm_num)

/-- The entries beside the diagonal, where two components of the axis meet. -/
theorem within_offDiagonal {i j l s c : Float} (hij : i * j = 0) (hl : l = 0 ∨ l = 1)
    (hs : Double.Within s 1) (hc : Double.Within c 1) :
    Double.Within (i * j * (1 - c) + l * s) 1 ∧ Double.Within (i * j * (1 - c) - l * s) 1 := by
  have complement : Double.Within (1 - c) (2 : ℕ) :=
    within_one.sub hc (representable_natCast (by norm_num)) (by norm_num)
  have first : Double.Within (i * j * (1 - c)) 0 := by
    rw [hij]
    exact within_zero.mul complement representable_zero (by norm_num)
  have second : Double.Within (l * s) 1 := by
    have bound : Double.Within l 1 := by
      rcases hl with rfl | rfl
      · exact within_zero.mono (by norm_num)
      · exact within_one
    exact bound.mul hs representable_one (by norm_num)
  exact ⟨first.add second representable_one (by norm_num),
    first.sub second representable_one (by norm_num)⟩

theorem unit_components (axis : Axis) :
    let u : Vec3 Float := axis.unit
    ((u.x = 0 ∨ u.x = 1) ∧ (u.y = 0 ∨ u.y = 1) ∧ (u.z = 0 ∨ u.z = 1)) ∧
      u.x * u.y = 0 ∧ u.x * u.z = 0 ∧ u.y * u.z = 0 := by
  cases axis <;> decide +kernel

theorem within_turn (axis : Axis) {angle : Float}
    (h : (angle == 0) = true ∨
      Double.Within (Scalar.sin angle) 1 ∧ Double.Within (Scalar.cos angle) 1) :
    (Matrix3.turn axis.unit angle).Within 1 := by
  obtain ⟨⟨hx, hy, hz⟩, hxy, hxz, hyz⟩ := unit_components axis
  unfold Matrix3.turn
  split
  · refine ⟨⟨?_, ?_, ?_⟩, ⟨?_, ?_, ?_⟩, ?_, ?_, ?_⟩ <;> decide +kernel
  · rename_i turned
    obtain ⟨hs, hc⟩ := h.resolve_left turned
    exact ⟨⟨within_diagonal hx hc, (within_offDiagonal hxy hz hs hc).2,
        (within_offDiagonal hxz hy hs hc).1⟩,
      ⟨(within_offDiagonal hxy hz hs hc).1, within_diagonal hy hc,
        (within_offDiagonal hyz hx hs hc).2⟩,
      (within_offDiagonal hxz hy hs hc).2, (within_offDiagonal hyz hx hs hc).1,
      within_diagonal hz hc⟩

/-- Three turns in a row add up to nine terms. -/
theorem within_rotation {o : Orientation Float}
    (h : ∀ angle ∈ [o.argument, o.inclination, o.ascendingNode], Turns angle) :
    o.rotation.Within (9 : ℕ) := by
  have turn (axis : Axis) {angle : Float} (h : Turns angle) :
      (Matrix3.about axis angle).Within (1 : ℕ) := by
    rw [Nat.cast_one]
    exact within_turn axis h
  simp only [List.forall_mem_cons] at h
  obtain ⟨argument, inclination, ascendingNode, -⟩ := h
  have two := (turn .y argument).mul (turn .z inclination) (fits_zero (by norm_num))
  exact two.mul (turn .y ascendingNode) (fits_zero (by norm_num))

theorem within_apply {o : Orientation Float} {v : Vec3 Float} {k : ℤ}
    (turns : ∀ angle ∈ [o.argument, o.inclination, o.ascendingNode], Turns angle)
    (hv : v.Within (2 ^ k)) (low : -1074 ≤ k) (high : k ≤ 1019) :
    (o.rotation * v).Within ((27 : ℕ) * 2 ^ k) := by
  have fits : Fits 27 k :=
    fits_of_bits (by norm_num : 27 < 2 ^ 5) (by norm_num) low (by push_cast; omega)
  have one : v.Within ((1 : ℕ) * 2 ^ k) := by rwa [Nat.cast_one, one_mul]
  exact (within_rotation turns).apply one fits

end Periapsis
