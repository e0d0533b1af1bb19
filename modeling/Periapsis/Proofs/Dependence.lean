import Periapsis.Proofs.Solution

/-!
# What a solution depends on

A table that can be built and a Sun that is physical are solved without a
failure, so what comes of them is a value that is computed from the entries
(`Table.solution`, `solve_eq_ok_of_sound`). Each part of it reads only some of
what is given (`map_placed_of_agreeOn`):

* `positions_of_agreeOn`, `velocities_of_agreeOn`: where a body is depends on
  its distance and its orientation, how it moves on its speed and its
  orientation;
* `momentum_of_agreeOn`: the momentum also reads the masses, but no distance, no
  id and no mass of the Sun;
* `solution_of_agreeOn_bodies`: other ids rename the bodies and change nothing
  else.

All of this is said of two tables that may differ in whatever is not read
(`solutions_agree`), and holds on any numbers, those that are rounded too.
-/

namespace Periapsis

variable {α : Type} [Scalar α]

/-! ## Solutions without checks -/

/-- The heliocentric state of a body, physical or not. -/
def Body.placement (b : Body α) : State α where
  position := b.orientation.rotation * (⟨b.periapsis, 0, 0⟩ : Vec3 α)
  velocity := b.orientation.rotation * (⟨0, 0, b.speed⟩ : Vec3 α)

theorem Body.state_eq (b : Body α) (id : String) : b.state id = b.checked id b.placement :=
  rfl

namespace Table

/-- Every body in its place. -/
def placed (t : Table α) : List (Placed α) :=
  t.entries.map fun entry => ⟨entry.1, entry.2, entry.2.placement⟩

/-- What solving a table comes to. -/
def solution (t : Table α) (sunMass : α) : Solution α where
  bodies := t.placed
  momentum := Periapsis.momentum t.placed
  sunMass := sunMass
  sunVelocity := -Periapsis.momentum t.placed / sunMass

theorem place_eq_ok_of_sound {t : Table α} (h : t.Sound) : t.place = .ok t.placed := by
  refine (place_eq_ok_iff ..).2 ⟨?_, ?_⟩
  · rw [placed, List.map_map]
    exact List.map_id _
  · rw [placed, List.forall_mem_map]
    intro entry mem
    rw [Body.state_eq]
    exact (Body.checked_eq_ok_iff ..).2 ⟨h.physical entry mem, rfl⟩

theorem solve_eq_ok_of_sound {t : Table α} (h : t.Sound) {sunMass : α}
    (valid : Scalar.isFinite sunMass = true ∧ ¬ sunMass ≤ 0) :
    t.solve sunMass = .ok (t.solution sunMass) := by
  have compensated :=
    (compensation_eq_ok_iff (Periapsis.momentum t.placed) _ sunMass).2 ⟨valid, rfl⟩
  exact (solve_eq_ok_iff ..).2 ⟨place_eq_ok_of_sound h, rfl, rfl, compensated⟩

theorem solve_eq_error_of_sound {t : Table α} (h : t.Sound) {sunMass : α}
    (invalid : ¬ (Scalar.isFinite sunMass = true ∧ ¬ sunMass ≤ 0)) :
    t.solve sunMass = .error (.invalidSunMass sunMass) := by
  rw [solve_eq_of_place (place_eq_ok_of_sound h), compensation_eq_error invalid]
  rfl

/-! ## Tables that agree -/

/-- Two tables have the same in some part of every body, entry by entry. -/
def AgreeOn {γ : Type} (part : Body α → γ) (t t' : Table α) : Prop :=
  t.entries.map (fun entry => part entry.2) = t'.entries.map fun entry => part entry.2

variable {t t' : Table α}

/-- What reads a part of the bodies only is the same for tables that agree on this part. -/
theorem map_placed_of_agreeOn {β γ : Type} {part : Body α → γ} (out : Placed α → β) (read : γ → β)
    (reads : ∀ id b, out ⟨id, b, b.placement⟩ = read (part b)) (h : AgreeOn part t t') :
    t.placed.map out = t'.placed.map out := by
  have through (t : Table α) :
      t.placed.map out = (t.entries.map fun entry => part entry.2).map read := by
    rw [placed, List.map_map, List.map_map]
    exact List.map_congr_left fun entry _ => reads entry.1 entry.2
  rw [through, through, h]

theorem positions_of_agreeOn (h : AgreeOn (fun b => (b.periapsis, b.orientation)) t t') :
    t.placed.map (fun b => b.state.position) = t'.placed.map fun b => b.state.position :=
  map_placed_of_agreeOn _
    (fun (periapsis, orientation) => orientation.rotation * (⟨periapsis, 0, 0⟩ : Vec3 α))
    (fun _ _ => rfl) h

theorem velocities_of_agreeOn (h : AgreeOn (fun b => (b.speed, b.orientation)) t t') :
    t.placed.map (fun b => b.state.velocity) = t'.placed.map fun b => b.state.velocity :=
  map_placed_of_agreeOn _
    (fun (speed, orientation) => orientation.rotation * (⟨0, 0, speed⟩ : Vec3 α))
    (fun _ _ => rfl) h

theorem momentum_of_agreeOn (h : AgreeOn (fun b => (b.speed, b.mass, b.orientation)) t t') :
    Periapsis.momentum t.placed = Periapsis.momentum t'.placed := by
  have sum (bodies : List (Placed α)) : Periapsis.momentum bodies =
      (bodies.map fun b => b.state.momentum b.body.mass).foldl (fun sum p => sum + p) 0 :=
    List.foldl_map.symm
  have momenta := map_placed_of_agreeOn (fun b => b.state.momentum b.body.mass)
    (fun (speed, mass, orientation) => orientation.rotation * (⟨0, 0, speed⟩ : Vec3 α) * mass)
    (fun _ _ => rfl) h
  rw [sum, sum, momenta]

/-- The same bodies under other ids are the same placed bodies, renamed. -/
theorem placed_of_agreeOn_bodies (h : AgreeOn id t t') :
    t'.placed = List.zipWith (fun b id => { b with id }) t.placed t'.ids := by
  obtain ⟨entries⟩ := t
  obtain ⟨others⟩ := t'
  induction entries generalizing others with
  | nil =>
    cases others with
    | nil => rfl
    | cons other others => cases h
  | cons entry entries ih =>
    cases others with
    | nil => cases h
    | cons other others =>
      obtain ⟨same, rest⟩ := List.cons.inj h
      have same : entry.2 = other.2 := same
      have rest := ih others rest
      unfold placed ids at rest ⊢
      rw [List.map_cons, List.map_cons, List.map_cons, List.zipWith_cons_cons, rest, same]

theorem solution_of_agreeOn_bodies (h : AgreeOn id t t') (sunMass : α) :
    t'.solution sunMass = { t.solution sunMass with
      bodies := List.zipWith (fun b id => { b with id }) (t.solution sunMass).bodies t'.ids } := by
  have parts : AgreeOn (fun b => (b.speed, b.mass, b.orientation)) t t' := by
    have mapped := congrArg (List.map fun b : Body α => (b.speed, b.mass, b.orientation)) h
    rwa [List.map_map, List.map_map] at mapped
  simp only [solution, ← placed_of_agreeOn_bodies h, momentum_of_agreeOn parts]

end Table

/-- Tables that are made of any entries are solved, each for any mass of a Sun
that is physical, with positions that only tell distances and orientations,
velocities that only tell speeds and orientations, a momentum that only tells
speeds, masses and orientations, and a velocity of the Sun that only tells these
and the mass of the Sun. Bodies under other ids are the same bodies renamed. -/
theorem solutions_agree {entries others : List (String × Body α)} {t t' : Table α}
    (made : Table.ofEntries entries = .ok t) (made' : Table.ofEntries others = .ok t')
    {sunMass sunMass' : α} (valid : Scalar.isFinite sunMass = true ∧ ¬ sunMass ≤ 0)
    (valid' : Scalar.isFinite sunMass' = true ∧ ¬ sunMass' ≤ 0) :
    ∃ s s', t.solve sunMass = .ok s ∧ t'.solve sunMass' = .ok s' ∧
      (t.AgreeOn (fun b => (b.periapsis, b.orientation)) t' →
        s.bodies.map (fun b => b.state.position) = s'.bodies.map fun b => b.state.position) ∧
      (t.AgreeOn (fun b => (b.speed, b.orientation)) t' →
        s.bodies.map (fun b => b.state.velocity) = s'.bodies.map fun b => b.state.velocity) ∧
      (t.AgreeOn (fun b => (b.speed, b.mass, b.orientation)) t' →
        s.momentum = s'.momentum ∧ (sunMass = sunMass' → s.sunVelocity = s'.sunVelocity)) ∧
      (t.AgreeOn id t' → sunMass = sunMass' →
        s' = { s with bodies := List.zipWith (fun b id => { b with id }) s.bodies t'.ids }) := by
  have sound := ((Table.ofEntries_eq_ok_iff ..).1 made).1
  have sound' := ((Table.ofEntries_eq_ok_iff ..).1 made').1
  refine ⟨_, _, Table.solve_eq_ok_of_sound sound valid, Table.solve_eq_ok_of_sound sound' valid',
    Table.positions_of_agreeOn, Table.velocities_of_agreeOn, fun same => ?_, ?_⟩
  · have momentum := Table.momentum_of_agreeOn same
    refine ⟨momentum, fun mass => ?_⟩
    rw [Table.solution, Table.solution, momentum, mass]
  · rintro same rfl
    exact Table.solution_of_agreeOn_bodies same sunMass

/-- The planets under other ids. -/
def twins : Table Float :=
  ⟨planets.map fun entry => (entry.1 ++ " b", entry.2)⟩

/-- The planets without mass, under other ids again. -/
def shadows : Table Float :=
  ⟨planets.map fun entry => ("shadow of " ++ entry.1, { entry.2 with mass := 0 })⟩

/-- The shadows of the planets move as these do, around a Sun of one kilogram;
their twins do so under their ids, and the Sun with them. -/
theorem solutions_agree_planets :
    (∃ s s', solarSystem.solve Sun.mass = .ok s ∧ shadows.solve 1 = .ok s' ∧
      s.bodies.map (fun b => b.state.position) = s'.bodies.map (fun b => b.state.position) ∧
      s.bodies.map (fun b => b.state.velocity) = s'.bodies.map fun b => b.state.velocity) ∧
    ∃ s s', solarSystem.solve Sun.mass = .ok s ∧ twins.solve Sun.mass = .ok s' ∧
      s.momentum = s'.momentum ∧ s.sunVelocity = s'.sunVelocity ∧
      s' = { s with bodies := List.zipWith (fun b id => { b with id }) s.bodies twins.ids } := by
  have one : (1 : Float).isFinite = true ∧ ¬ (1 : Float) ≤ 0 := by decide +kernel
  have made_shadows := (Table.ofEntries_eq_ok_iff shadows.entries _).2 ⟨by decide +kernel, rfl⟩
  have made_twins := (Table.ofEntries_eq_ok_iff twins.entries _).2 ⟨by decide +kernel, rfl⟩
  constructor
  · obtain ⟨s, s', solved, solved', positions, velocities, -, -⟩ :=
      solutions_agree Table.ofEntries_planets made_shadows Sun.mass_valid one
    exact ⟨s, s', solved, solved', positions rfl, velocities rfl⟩
  · obtain ⟨s, s', solved, solved', -, -, momentum, renamed⟩ :=
      solutions_agree Table.ofEntries_planets made_twins Sun.mass_valid Sun.mass_valid
    exact ⟨s, s', solved, solved', (momentum rfl).1, (momentum rfl).2 rfl, renamed rfl rfl⟩

end Periapsis
