import Periapsis.Proofs.Body
import Periapsis.Proofs.Double.Vector
import Periapsis.Proofs.Solution

/-!
# Overflow

The numbers of a table that can be reached are finite, and so is the mass of the
Sun. Their products and quotients need not be: the velocity of the Sun may be
infinite in a system that is solved without a failure and counts as balanced
(`solve_rocks_infinite`).

* `finite_iff`: an overflow anywhere but in the positions reaches the residual,
  so that these and the residual show whether a solution is finite;
* `finite_of_moderate`: there is none where the sizes of the bodies and of the
  Sun leave room for it. The factors 27 and 81 are for the rounding of the turns
  and for the residual, which adds what the Sun makes up for.
-/

namespace Periapsis

open Double

/-! ## Finite solutions -/

/-- Nothing that was computed for a solution has overflowed. -/
structure Solution.Finite (s : Solution Float) : Prop where
  positions : ∀ b ∈ s.bodies, b.state.position.Finite
  velocities : ∀ b ∈ s.bodies, b.state.velocity.Finite
  momentum : s.momentum.Finite
  sunVelocity : s.sunVelocity.Finite
  residual : s.residual.Finite

instance (s : Solution Float) : Decidable s.Finite :=
  decidable_of_iff ((∀ b ∈ s.bodies, b.state.position.Finite) ∧
      (∀ b ∈ s.bodies, b.state.velocity.Finite) ∧ s.momentum.Finite ∧ s.sunVelocity.Finite ∧
      s.residual.Finite)
    ⟨fun ⟨p, v, m, sv, r⟩ => ⟨p, v, m, sv, r⟩, fun ⟨p, v, m, sv, r⟩ => ⟨p, v, m, sv, r⟩⟩

/-- Whatever overflows on the way to the velocity of the Sun makes the residual
overflow, too. -/
theorem finite_iff {s : Solution Float} (sum : s.momentum = momentum s.bodies) :
    s.Finite ↔ (∀ b ∈ s.bodies, b.state.position.Finite) ∧ s.residual.Finite := by
  refine ⟨fun h => ⟨h.positions, h.residual⟩, fun ⟨positions, residual⟩ => ?_⟩
  have parts : s.momentum.Finite ∧ (s.sunVelocity * s.sunMass).Finite := residual.of_add
  obtain ⟨momentum, compensating⟩ := parts
  refine ⟨positions, fun b hb => ?_, momentum, compensating.of_mul, residual⟩
  rw [sum] at momentum
  exact ((Vec3.finite_of_foldl (fun b : Placed Float => b.state.momentum b.body.mass)
    momentum).2 b hb).of_mul

/-! ## Solutions that do not overflow -/

/-- Bounds for the bodies of a table and for the mass of the Sun, by powers of
two, that leave room for all steps of the solution. -/
structure Moderate (t : Table Float) (sunMass : Float) (fast heavy : ℕ) (light : ℤ) : Prop where
  turns : ∀ entry ∈ t.entries, ∀ angle ∈ [entry.2.orientation.argument,
    entry.2.orientation.inclination, entry.2.orientation.ascendingNode], Turns angle
  periapsis : ∀ entry ∈ t.entries, size entry.2.periapsis ≤ 2 ^ (1019 : ℤ)
  speed : ∀ entry ∈ t.entries, size entry.2.speed ≤ 2 ^ (fast : ℤ)
  mass : ∀ entry ∈ t.entries, size entry.2.mass ≤ 2 ^ (heavy : ℤ)
  sunMass : 2 ^ light ≤ size sunMass
  few : 81 * t.size < 2 ^ 53
  slow : fast ≤ 1019
  momentum : (81 * t.size : ℕ) * (2 : ℚ) ^ (fast + heavy : ℤ) < 2 ^ (1024 : ℤ)
  reflex : (27 * t.size : ℕ) * (2 : ℚ) ^ (fast + heavy - light) < 2 ^ (1024 : ℤ)

theorem Body.finite_of_offence? {b : Body Float} (h : b.offence? = none) :
    b.mass.isFinite = true ∧ b.periapsis.isFinite = true ∧ b.speed.isFinite = true := by
  have checks := Body.isFinite_of_offence? h
  simp only [Body.checks, List.forall_mem_append, List.forall_mem_cons] at checks
  exact ⟨checks.1.1.1, checks.1.1.2.1, checks.1.1.2.2.1⟩

/-- What is known of the bodies of a solution. -/
structure Bounded (b : Placed Float) (fast heavy : ℕ) : Prop where
  position : b.state.position.Within ((27 : ℕ) * 2 ^ (1019 : ℤ))
  velocity : b.state.velocity.Within ((27 : ℕ) * 2 ^ (fast : ℤ))
  mass : Double.Within b.body.mass (2 ^ (heavy : ℤ))

theorem bounded_of_moderate {t : Table Float} (h : t.Sound) {sunMass : Float} {fast heavy : ℕ}
    {light : ℤ} (bounds : Moderate t sunMass fast heavy light) {bodies : List (Placed Float)}
    (placed : t.place = .ok bodies) : ∀ b ∈ bodies, Bounded b fast heavy := by
  obtain ⟨entries, states⟩ := (Table.place_eq_ok_iff ..).1 placed
  intro b hb
  have entry : (b.id, b.body) ∈ t.entries := entries ▸ List.mem_map_of_mem hb
  obtain ⟨mass, periapsis, speed⟩ := Body.finite_of_offence? (h.physical (b.id, b.body) entry)
  have turns := bounds.turns (b.id, b.body) entry
  have state := ((Body.checked_eq_ok_iff ..).1 (states b hb)).2
  have zero (k : ℤ) := Vec3.within_zero.x.mono (two_zpow_pos k).le
  have position : b.body.periapsisState.position.Within (2 ^ (1019 : ℤ)) :=
    ⟨⟨periapsis, bounds.periapsis (b.id, b.body) entry⟩, zero _, zero _⟩
  have velocity : b.body.periapsisState.velocity.Within (2 ^ (fast : ℤ)) :=
    ⟨zero _, zero _, speed, bounds.speed (b.id, b.body) entry⟩
  refine ⟨?_, ?_, mass, bounds.mass (b.id, b.body) entry⟩
  · rw [← state]
    exact within_apply turns position (by norm_num) le_rfl
  · rw [← state]
    have slow := bounds.slow
    exact within_apply turns velocity (by omega) (by omega)

theorem within_momentum {bodies : List (Placed Float)} {fast heavy : ℕ}
    (h : ∀ b ∈ bodies, Bounded b fast heavy) (fits : Fits (27 * bodies.length) (fast + heavy)) :
    (momentum bodies).Within ((27 * bodies.length : ℕ) * 2 ^ (fast + heavy : ℤ)) := by
  have start : (0 : Vec3 Float).Within ((0 : ℕ) * 2 ^ (fast + heavy : ℤ)) := by
    rw [Nat.cast_zero, zero_mul]
    exact Vec3.within_zero
  have term : ∀ b ∈ bodies,
      (b.state.momentum b.body.mass).Within ((27 : ℕ) * 2 ^ (fast + heavy : ℤ)) := by
    intro b hb
    have fits : Fits 27 (fast + heavy) :=
      fits.mono (Nat.le_mul_of_pos_right 27 (List.length_pos_of_mem hb))
    refine (h b hb).velocity.mul (h b hb).mass fits.representable (le_of_eq ?_)
    rw [mul_assoc, ← zpow_add₀ (by norm_num)]
  have sum := start.foldl term (by rwa [Nat.zero_add])
  rwa [Nat.zero_add] at sum

/-- The velocity of a Sun that is not lighter than a power of two. -/
theorem within_compensation {p : Vec3 Float} {n : ℕ} {k q : ℤ} (hp : p.Within (n * 2 ^ k))
    {sunMass : Float} (le : 2 ^ q ≤ size sunMass) (fits : Fits n (k - q)) :
    (-p / sunMass).Within (n * 2 ^ (k - q)) := by
  refine hp.neg.div ((two_zpow_pos q).trans_le le) fits.representable ?_
  calc (n : ℚ) * 2 ^ k
    _ = n * 2 ^ (k - q) * 2 ^ q := by rw [mul_assoc, ← zpow_add₀ (by norm_num), sub_add_cancel]
    _ ≤ n * 2 ^ (k - q) * size sunMass :=
      mul_le_mul_of_nonneg_left le (mul_nonneg (Nat.cast_nonneg _) (two_zpow_pos _).le)

/-- The momentum of a Sun that is not as heavy as the next power of two. -/
theorem within_reflex {v : Vec3 Float} {n : ℕ} {k q : ℤ} (hv : v.Within (n * 2 ^ (k - q)))
    {sunMass : Float} (finite : sunMass.isFinite = true) (lt : size sunMass < 2 ^ (q + 1))
    (fits : Fits (2 * n) k) : (v * sunMass).Within ((2 * n : ℕ) * 2 ^ k) := by
  refine hv.mul ⟨finite, lt.le⟩ fits.representable (le_of_eq ?_)
  have power : k - q + (q + 1) = k + (1 : ℕ) := by
    push_cast
    ring
  rw [mul_assoc, ← zpow_add₀ (by norm_num), power, two_zpow_add_natCast]
  push_cast
  ring

/-- Nothing overflows where there is room for it. -/
theorem finite_of_moderate {t : Table Float} (h : t.Sound) {sunMass : Float} {s : Solution Float}
    (solved : t.solve sunMass = .ok s) {fast heavy : ℕ} {light : ℤ}
    (bounds : Moderate t sunMass fast heavy light) : s.Finite := by
  obtain ⟨placed, sum, mass, compensated⟩ := (solve_eq_ok_iff ..).1 solved
  obtain ⟨⟨finite, -⟩, velocity⟩ := (compensation_eq_ok_iff ..).1 compensated
  have bodies := bounded_of_moderate h bounds placed
  have length : s.bodies.length = t.size := by
    rw [Table.size, ← ((Table.place_eq_ok_iff ..).1 placed).1, List.length_map]
  have fits : Fits (81 * t.size) (fast + heavy) := ⟨bounds.few, by omega, bounds.momentum⟩
  have momentum : s.momentum.Within ((27 * t.size : ℕ) * 2 ^ (fast + heavy : ℤ)) := by
    rw [sum, ← length]
    exact within_momentum bodies (fits.mono (by omega))
  obtain ⟨q, high, le, lt⟩ :=
    exists_two_zpow_le_size ((two_zpow_pos light).trans_le bounds.sunMass)
  have sunVelocity : s.sunVelocity.Within ((27 * t.size : ℕ) * 2 ^ (fast + heavy - q : ℤ)) := by
    have above := two_zpow_lt_iff.1 (bounds.sunMass.trans_lt lt)
    have less : (2 : ℚ) ^ (fast + heavy - q : ℤ) ≤ 2 ^ (fast + heavy - light : ℤ) :=
      two_zpow_le_iff.2 (by omega)
    have few := bounds.few
    rw [velocity]
    refine within_compensation momentum le ⟨by omega, by omega, ?_⟩
    exact (mul_le_mul_of_nonneg_left less (Nat.cast_nonneg _)).trans_lt bounds.reflex
  have residual : s.residual.Within ((81 * t.size : ℕ) * 2 ^ (fast + heavy : ℤ)) := by
    have parts : 81 * t.size = 27 * t.size + 2 * (27 * t.size) := by ring
    have reflex := within_reflex sunVelocity finite lt (fits.mono (by omega))
    rw [← mass] at reflex
    rw [parts] at fits ⊢
    exact momentum.add reflex fits
  exact ⟨fun b hb => (bodies b hb).position.finite, fun b hb => (bodies b hb).velocity.finite,
    momentum.finite, sunVelocity.finite, residual.finite⟩

/-- The planets and their Sun leave room, as far as sine and cosine do. -/
theorem moderate_solarSystem (turns : ∀ entry ∈ (planets : List (String × Body Float)),
    ∀ angle ∈ [entry.2.orientation.argument, entry.2.orientation.inclination,
      entry.2.orientation.ascendingNode], Turns angle) :
    Moderate solarSystem Sun.mass 16 91 100 := by
  refine ⟨turns, ?_, ?_, ?_, ?_, ?_, ?_, ?_, ?_⟩
  all_goals decide +kernel

/-- A table that can be reached is solved for every Sun that is physical. Its
solution is finite exactly when the positions and the residual are, and it is
where the bodies and the Sun are moderate. -/
theorem solve_finite {t : Table Float} (h : Reachable t) {sunMass : Float}
    (valid : sunMass.isFinite = true ∧ ¬ sunMass ≤ 0) :
    ∃ s, t.solve sunMass = .ok s ∧
      (s.Finite ↔ (∀ b ∈ s.bodies, b.state.position.Finite) ∧ s.residual.Finite) ∧
      ∀ fast heavy light, Moderate t sunMass fast heavy light → s.Finite := by
  obtain ⟨s, solved⟩ := exists_solve h.sound valid
  obtain ⟨-, sum, -, -⟩ := (solve_eq_ok_iff ..).1 solved
  exact ⟨s, solved, finite_iff sum, fun _ _ _ => finite_of_moderate h.sound solved⟩

/-- Rocks of some mass and speed, in orbits that are not turned. -/
def rocks (mass speed : Float) : Table Float :=
  let body : Body Float := ⟨mass, 10, speed, ⟨0, 0, 0⟩, none, none⟩
  ⟨[("rock", body), ("stone", body)]⟩

theorem solve_finite_rocks :
    Reachable (rocks 3 5) ∧ ((2 : Float).isFinite = true ∧ ¬ (2 : Float) ≤ 0) ∧
      ∃ s, (rocks 3 5).solve 2 = .ok s ∧ s.Finite := by
  have reachable : Reachable (rocks 3 5) :=
    .ofEntries ((Table.ofEntries_eq_ok_iff (rocks 3 5).entries _).2 ⟨by decide +kernel, rfl⟩)
  have valid : (2 : Float).isFinite = true ∧ ¬ (2 : Float) ≤ 0 := by decide +kernel
  have still : ∀ entry ∈ (rocks 3 5).entries, ∀ angle ∈ [entry.2.orientation.argument,
      entry.2.orientation.inclination, entry.2.orientation.ascendingNode],
      (Scalar.radians angle == 0) = true := by decide +kernel
  have moderate : Moderate (rocks 3 5) 2 3 2 1 := by
    refine ⟨fun entry he angle ha => .inl (still entry he angle ha), ?_, ?_, ?_, ?_, ?_, ?_, ?_, ?_⟩
    all_goals decide +kernel
  obtain ⟨s, solved, -, finite⟩ := solve_finite reachable valid
  exact ⟨reachable, valid, s, solved, finite 3 2 1 moderate⟩

/-- No check sees that a velocity of the Sun cannot be held by a double: the
system counts as balanced. -/
theorem solve_rocks_infinite :
    Reachable (rocks 1e100 1e100) ∧
      ∃ s, (rocks 1e100 1e100).solve 1e-200 = .ok s ∧ s.isBalanced = true ∧ ¬ s.Finite := by
  have reachable : Reachable (rocks 1e100 1e100) :=
    .ofEntries ((Table.ofEntries_eq_ok_iff (rocks 1e100 1e100).entries _).2
      ⟨by decide +kernel, rfl⟩)
  have valid : (1e-200 : Float).isFinite = true ∧ ¬ (1e-200 : Float) ≤ 0 := by decide +kernel
  obtain ⟨s, solved⟩ := exists_solve reachable.sound valid
  have overflows : ∀ s ∈ ((rocks 1e100 1e100).solve 1e-200).toOption,
      s.isBalanced = true ∧ s.sunVelocity.z.isFinite = false := by decide +kernel
  obtain ⟨balanced, infinite⟩ := overflows s (by rw [solved]; rfl)
  refine ⟨reachable, s, solved, balanced, fun finite => ?_⟩
  rw [finite.sunVelocity.z] at infinite
  cases infinite

end Periapsis
