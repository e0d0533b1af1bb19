import Mathlib.Analysis.Complex.Trigonometric
import Mathlib.Analysis.Real.Sqrt
import Mathlib.Tactic.FinCases
import Mathlib.Tactic.NormNum
import Periapsis.Proofs.Scenario

/-!
# Exact arithmetic

The formulas of the library read over the real numbers, with any functions for
sine and cosine (`Exact`). Nothing is rounded there, so a sum does not depend on
its order and the velocity of the Sun makes up for all of the momentum:

* `perm_motions`, `momentum_ofSolution`: the Sun and all bodies move in a scenario,
  and their momenta, which are added in the order of the keys, are none as a whole;
* `momentum_scenario_eq_zero`: nor has any system that can be built, and it
  counts as balanced.
-/

namespace Periapsis

/-- What is taken for sine and cosine. -/
structure Circular where
  sin : ℝ → ℝ
  cos : ℝ → ℝ

/-- The real numbers as what orbits are computed in. -/
def Exact (_ : Circular) : Type := ℝ

def Exact.real {f : Circular} (a : Exact f) : ℝ := a

noncomputable instance (f : Circular) : Scalar (Exact f) where
  zero := (0 : ℝ)
  one := (1 : ℝ)
  add := fun a b : ℝ => a + b
  sub := fun a b : ℝ => a - b
  mul := fun a b : ℝ => a * b
  div := fun a b : ℝ => a / b
  neg := fun a : ℝ => -a
  le := fun a b : ℝ => a ≤ b
  lt := fun a b : ℝ => a < b
  beq := fun a b : ℝ => decide (a = b)
  ofScientific := fun digits negative exponent =>
    (OfScientific.ofScientific digits negative exponent : ℝ)
  sin := f.sin
  cos := f.cos
  sqrt := Real.sqrt
  isFinite := fun _ => true
  decLe := Real.decidableLE
  decLt := Real.decidableLT

variable {f : Circular}

/-! ## Sums of vectors -/

namespace Vec3

/-- A vector by the indices of its components. -/
def components (v : Vec3 (Exact f)) : Fin 3 → ℝ :=
  ![v.x, v.y, v.z]

theorem exact_ext {v w : Vec3 (Exact f)} (x : v.x = w.x) (y : v.y = w.y) (z : v.z = w.z) :
    v = w := by
  cases v
  cases w
  exact (Vec3.mk.injEq ..).mpr ⟨x, y, z⟩

theorem components_injective : Function.Injective (components (f := f)) := by
  intro v w same
  exact exact_ext (congrFun same 0) (congrFun same 1) (congrFun same 2)

theorem components_zero : (0 : Vec3 (Exact f)).components = 0 := by
  ext i
  fin_cases i <;> rfl

theorem components_add (v w : Vec3 (Exact f)) :
    (v + w).components = v.components + w.components := by
  ext i
  fin_cases i <;> rfl

theorem components_scale (v : Vec3 (Exact f)) (a : Exact f) :
    (v * a).components = a.real • v.components := by
  ext i
  fin_cases i <;> exact mul_comm _ a.real

/-- What is divided by a number and multiplied with it again has only changed its sign. -/
theorem exact_compensate (p : Vec3 (Exact f)) {m : Exact f} (hm : m ≠ 0) :
    p + -p / m * m = 0 := by
  have cancels (a b : ℝ) (hb : b ≠ 0) : a + -a / b * b = 0 := by
    rw [div_mul_cancel₀ _ hb, add_neg_cancel]
  have component (a : ℝ) := cancels a m hm
  exact exact_ext (component p.x) (component p.y) (component p.z)

variable {β : Type} (g : β → Vec3 (Exact f))

theorem components_foldl_add (v : Vec3 (Exact f)) (items : List β) :
    (items.foldl (fun sum item => sum + g item) v).components =
      v.components + (items.map fun item => (g item).components).sum := by
  induction items generalizing v with
  | nil => exact (add_zero _).symm
  | cons item items ih =>
    rw [List.foldl_cons, ih, components_add, List.map_cons, List.sum_cons, add_assoc]

/-- A sum does not depend on the order of its terms. -/
theorem foldl_add_perm {items others : List β} (h : items.Perm others) (v : Vec3 (Exact f)) :
    items.foldl (fun sum item => sum + g item) v = others.foldl (fun sum item => sum + g item) v :=
  components_injective <| by
    rw [components_foldl_add, components_foldl_add, (h.map fun item => (g item).components).sum_eq]

end Vec3

/-! ## Balanced systems -/

/-- What moves in a scenario: under every key a mass and its velocity. -/
def Scenario.motions {α : Type} (scenario : Scenario α) : List (String × α × Vec3 α) :=
  scenario.bodies.entries.map fun entry => (entry.1, entry.2.mass, entry.2.state.velocity)

/-- Masses times velocities, added in the order of the keys. -/
def Scenario.momentum (scenario : Scenario (Exact f)) : Fin 3 → ℝ :=
  (scenario.motions.map fun motion => motion.2.1.real • motion.2.2.components).sum

theorem residual_of_solve {t : Table (Exact f)} {sunMass : Exact f} {s : Solution (Exact f)}
    (solved : t.solve sunMass = .ok s) : s.residual = 0 := by
  obtain ⟨-, -, mass, compensated⟩ := (solve_eq_ok_iff ..).1 solved
  obtain ⟨⟨-, positive⟩, velocity⟩ := (compensation_eq_ok_iff ..).1 compensated
  have nonzero : sunMass ≠ 0 := fun zero => positive (@le_of_eq ℝ _ _ _ zero)
  rw [Solution.residual, residual, velocity, mass]
  exact Vec3.exact_compensate s.momentum nonzero

theorem magnitude_zero : (0 : Vec3 (Exact f)).magnitude = 0 := by
  show Real.sqrt (0 * 0 + 0 * 0 + 0 * 0) = (0 : ℝ)
  norm_num

theorem isBalanced_of_residual {s : Solution (Exact f)} (h : s.residual = 0) :
    s.isBalanced = true := by
  rw [Solution.isBalanced, h, decide_eq_true_eq, magnitude_zero]
  have root : (0 : ℝ) ≤ s.momentum.magnitude := Real.sqrt_nonneg _
  have tolerance : (0 : ℝ) ≤ (1e-9 : ℝ) := by norm_num
  exact mul_nonneg root tolerance

/-- The Sun and all bodies move in a scenario, and nothing else does. -/
theorem perm_motions {t : Table (Exact f)} (h : t.Sound) {sunMass : Exact f}
    {s : Solution (Exact f)} (solved : t.solve sunMass = .ok s) {timeStep : Int}
    {scenario : Scenario (Exact f)} (made : Scenario.ofSolution s timeStep = .ok scenario) :
    scenario.motions.Perm (("sun", sunMass, s.sunVelocity) ::
      s.bodies.map fun b => (b.id, b.body.mass, b.state.velocity)) := by
  obtain ⟨-, -, mass, -⟩ := (solve_eq_ok_iff ..).1 solved
  have entries := (Scenario.perm_entries h solved made).map fun entry =>
    (entry.1, entry.2.mass, entry.2.state.velocity)
  rw [List.map_cons, List.map_map] at entries
  exact mass ▸ entries

/-- The Sun and the bodies of a scenario have no momentum together. -/
theorem momentum_ofSolution {t : Table (Exact f)} (h : t.Sound) {sunMass : Exact f}
    {s : Solution (Exact f)} (solved : t.solve sunMass = .ok s) {timeStep : Int}
    {scenario : Scenario (Exact f)} (made : Scenario.ofSolution s timeStep = .ok scenario) :
    scenario.momentum = 0 := by
  obtain ⟨-, momentum, mass, -⟩ := (solve_eq_ok_iff ..).1 solved
  have sun : s.sunVelocity * s.sunMass = s.sunVelocity * sunMass := by rw [mass]
  have bodies : s.momentum.components =
      (s.bodies.map fun b => (b.state.velocity * b.body.mass).components).sum := by
    rw [momentum, Periapsis.momentum, Vec3.components_foldl_add, Vec3.components_zero, zero_add]
    rfl
  calc scenario.momentum
    _ = ((("sun", sunMass, s.sunVelocity) :: s.bodies.map fun b =>
          (b.id, b.body.mass, b.state.velocity)).map fun motion =>
            (motion.2.2 * motion.2.1).components).sum := by
      simp only [Vec3.components_scale]
      exact ((perm_motions h solved made).map _).sum_eq
    _ = (s.sunVelocity * sunMass).components + s.momentum.components := by
      rw [List.map_cons, List.sum_cons, List.map_map, bodies]
      rfl
    _ = s.residual.components := by rw [add_comm, ← sun, ← Vec3.components_add]; rfl
    _ = 0 := by rw [residual_of_solve solved, Vec3.components_zero]

/-- In exact arithmetic every system that can be built has a scenario without
any momentum, whatever sine and cosine are: the momenta of the Sun and of all the
bodies add up to nothing, nothing is left over by the Sun, and the system counts as
balanced. The sound tables are those that can be built of entries
(`Table.ofEntries_eq_ok_iff`). -/
theorem momentum_scenario_eq_zero {t : Table (Exact f)} (h : t.Sound) {sunMass : Exact f}
    (positive : 0 < sunMass) {timeStep : Int} (inRange : 1 ≤ timeStep ∧ timeStep ≤ maxTimeStep) :
    ∃ s scenario, t.solve sunMass = .ok s ∧ Scenario.ofSolution s timeStep = .ok scenario ∧
      scenario.motions.Perm (("sun", sunMass, s.sunVelocity) ::
        s.bodies.map fun b => (b.id, b.body.mass, b.state.velocity)) ∧
      scenario.momentum = 0 ∧ s.residual = 0 ∧ s.isBalanced = true := by
  have valid : Scalar.isFinite sunMass = true ∧ ¬ sunMass ≤ 0 :=
    ⟨rfl, @not_le_of_gt ℝ _ _ _ positive⟩
  obtain ⟨s, solved⟩ := exists_solve h valid
  have made := (Scenario.ofSolution_eq_ok_iff s timeStep _).2 ⟨inRange, rfl⟩
  have residual := residual_of_solve solved
  exact ⟨s, _, solved, made, perm_motions h solved made, momentum_ofSolution h solved made,
    residual, isBalanced_of_residual residual⟩

/-! ## The Earth alone -/

def loneEarth {α : Type} [Scalar α] : Table α :=
  ⟨[("earth", {
      mass := 5.97e24, periapsis := 147.0e9, speed := 30.29e3
      orientation := { argument := 85.9, inclination := 0, ascendingNode := -11.26064 }
      radius := none, color := none })]⟩

theorem isMagnitude_of_nonneg {a : Exact f} (h : 0 ≤ a) : Body.isMagnitude a = true := by
  have notNegative : ¬ a < 0 := @not_lt_of_ge ℝ _ _ _ h
  rw [Body.isMagnitude, decide_eq_false notNegative]
  rfl

theorem sound_loneEarth : (loneEarth : Table (Exact f)).Sound := by
  have ids : (loneEarth : Table (Exact f)).ids = ["earth"] := rfl
  refine ⟨by rw [ids]; decide, by rw [ids]; decide, List.forall_mem_singleton.2 ?_⟩
  have mass : (0 : ℝ) ≤ 5.97e24 := by norm_num
  have periapsis : (0 : ℝ) ≤ 147.0e9 := by norm_num
  have speed : (0 : ℝ) ≤ 30.29e3 := by norm_num
  have magnitudes : Body.isMagnitude (5.97e24 : Exact f) = true ∧
      Body.isMagnitude (147.0e9 : Exact f) = true ∧ Body.isMagnitude (30.29e3 : Exact f) = true :=
    ⟨isMagnitude_of_nonneg mass, isMagnitude_of_nonneg periapsis, isMagnitude_of_nonneg speed⟩
  simp [Body.offence?, Body.checks, magnitudes, Scalar.isFinite]

/-- Under the sine and cosine of the real numbers. -/
theorem momentum_scenario_loneEarth :
    let f : Circular := ⟨Real.sin, Real.cos⟩
    (loneEarth : Table (Exact f)).Sound ∧ (0 : Exact f) < Sun.mass ∧
      ∃ s scenario, (loneEarth : Table (Exact f)).solve Sun.mass = .ok s ∧
        Scenario.ofSolution s 60 = .ok scenario ∧
        scenario.motions.Perm (("sun", Sun.mass, s.sunVelocity) ::
          s.bodies.map fun b => (b.id, b.body.mass, b.state.velocity)) ∧
        scenario.momentum = 0 ∧ s.residual = 0 ∧ s.isBalanced = true := by
  have positive : (0 : ℝ) < 1988500e24 := by norm_num
  exact ⟨sound_loneEarth, positive, momentum_scenario_eq_zero sound_loneEarth positive (by decide)⟩

end Periapsis
