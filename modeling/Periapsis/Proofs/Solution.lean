import Periapsis.Proofs.Reachable
import Periapsis.Solution

/-!
# Solutions of sound tables

What `Table.solve` makes of a table whose bodies are physical: the bodies in
their order, each with its own state (`place_eq_ok_iff`, `exists_place`), and
what they and the mass of the Sun determine (`solve_eq_of_place`). So only this
mass can be at fault (`compensation_eq_ok_iff`), and the solution knows the ids
of the table and no others (`find?_placed`).
-/

namespace Periapsis

variable {α : Type}

/-- The first of placed bodies with an id is the first of the entries with it. -/
theorem find?_placed (bodies : List (Placed α)) (id : String) :
    (bodies.find? fun b => b.id == id).map Placed.body =
      (bodies.map fun b => (b.id, b.body)).lookup id := by
  induction bodies with
  | nil => rfl
  | cons b bodies ih =>
    rw [List.map_cons, List.lookup_cons, List.find?_cons]
    by_cases same : b.id = id
    · simp [same]
    · rw [beq_eq_false_iff_ne.2 same, beq_eq_false_iff_ne.2 (Ne.symm same)]
      exact ih

variable [Scalar α]

theorem Body.exists_state {b : Body α} (h : b.offence? = none) (id : String) :
    ∃ state, b.state id = .ok state :=
  ⟨_, (Body.checked_eq_ok_iff ..).2 ⟨h, rfl⟩⟩

namespace Table

theorem placed_eq_ok_iff (entry : String × Body α) (b : Placed α) :
    (entry.2.state entry.1).map (fun state => (⟨entry.1, entry.2, state⟩ : Placed α)) = .ok b ↔
      (b.id, b.body) = entry ∧ b.body.state b.id = .ok b.state := by
  obtain ⟨id, body⟩ := entry
  constructor
  · intro h
    cases hs : body.state id with
    | error f => rw [hs] at h; cases h
    | ok state => rw [hs] at h; cases h; exact ⟨rfl, hs⟩
  · rintro ⟨h, hs⟩
    cases h
    show (b.body.state b.id).map _ = _
    rw [hs]
    rfl

/-- Placed bodies are the entries of the table in their order, each with the
state that its body has. -/
theorem place_eq_ok_iff (t : Table α) (bodies : List (Placed α)) :
    t.place = .ok bodies ↔
      bodies.map (fun b => (b.id, b.body)) = t.entries ∧
        ∀ b ∈ bodies, b.body.state b.id = .ok b.state := by
  obtain ⟨entries⟩ := t
  show entries.mapM (fun entry => (entry.2.state entry.1).map fun state =>
    (⟨entry.1, entry.2, state⟩ : Placed α)) = _ ↔ _
  simp only [mapM_eq_ok_iff, placed_eq_ok_iff]
  induction bodies generalizing entries with
  | nil => simp [eq_comm]
  | cons b bodies ih =>
    rw [List.forall₂_cons_right_iff, List.map_cons, List.forall_mem_cons]
    constructor
    · rintro ⟨_, rest, ⟨rfl, hb⟩, hrest, rfl⟩
      obtain ⟨ids, states⟩ := (ih rest).1 hrest
      exact ⟨by rw [ids], hb, states⟩
    · rintro ⟨rfl, hb, states⟩
      exact ⟨_, _, ⟨rfl, hb⟩, (ih _).2 ⟨rfl, states⟩, rfl⟩

theorem exists_place {t : Table α} (h : ∀ entry ∈ t.entries, entry.2.offence? = none) :
    ∃ bodies, t.place = .ok bodies := by
  obtain ⟨entries⟩ := t
  induction entries with
  | nil => exact ⟨[], rfl⟩
  | cons entry entries ih =>
    obtain ⟨physical, rest⟩ := List.forall_mem_cons.1 h
    obtain ⟨state, hs⟩ := Body.exists_state physical entry.1
    obtain ⟨bodies, placed⟩ := ih rest
    obtain ⟨ids, states⟩ := (place_eq_ok_iff ..).1 placed
    refine ⟨⟨entry.1, entry.2, state⟩ :: bodies, (place_eq_ok_iff ..).2 ⟨?_, ?_⟩⟩
    · rw [List.map_cons, ids]
    · exact List.forall_mem_cons.2 ⟨hs, states⟩

end Table

theorem compensation_eq_ok_iff (momentum v : Vec3 α) (sunMass : α) :
    compensation momentum sunMass = .ok v ↔
      (Scalar.isFinite sunMass = true ∧ ¬ sunMass ≤ 0) ∧ v = -momentum / sunMass := by
  unfold compensation
  split
  · rename_i valid
    simp only [Bool.and_eq_true, Bool.not_eq_true', decide_eq_false_iff_not] at valid
    simp [valid, eq_comm]
  · rename_i invalid
    simp only [Bool.and_eq_true, Bool.not_eq_true', decide_eq_false_iff_not] at invalid
    exact ⟨nofun, fun h => absurd h.1 invalid⟩

theorem compensation_eq_error {sunMass : α}
    (h : ¬ (Scalar.isFinite sunMass = true ∧ ¬ sunMass ≤ 0)) (momentum : Vec3 α) :
    compensation momentum sunMass = .error (.invalidSunMass sunMass) := by
  unfold compensation
  rw [if_neg]
  simpa using h

/-- A solution is the placed bodies, their momentum and what compensates it. -/
theorem solve_eq_of_place {t : Table α} {bodies : List (Placed α)} (h : t.place = .ok bodies)
    (sunMass : α) :
    t.solve sunMass = (compensation (momentum bodies) sunMass).map fun sunVelocity =>
      { bodies, momentum := momentum bodies, sunMass, sunVelocity } := by
  unfold Table.solve
  rw [h]
  show (compensation (momentum bodies) sunMass >>= fun v => pure _) = _
  cases compensation (momentum bodies) sunMass <;> rfl

theorem solve_eq_ok_iff (t : Table α) (sunMass : α) (s : Solution α) :
    t.solve sunMass = .ok s ↔
      t.place = .ok s.bodies ∧ s.momentum = momentum s.bodies ∧ s.sunMass = sunMass ∧
        compensation s.momentum sunMass = .ok s.sunVelocity := by
  constructor
  · intro h
    obtain ⟨bodies, placed, h⟩ := (bind_eq_ok_iff ..).1 h
    obtain ⟨v, compensated, h⟩ := (bind_eq_ok_iff ..).1 h
    cases h
    exact ⟨placed, rfl, rfl, compensated⟩
  · obtain ⟨bodies, sum, mass, velocity⟩ := s
    rintro ⟨placed, hsum, hmass, compensated⟩
    dsimp only at placed hsum hmass compensated
    rw [hsum] at compensated
    rw [solve_eq_of_place placed, compensated, hsum, hmass]
    rfl

/-- Physical bodies and a Sun that is physical are all that a solution takes. -/
theorem exists_solve {t : Table α} (h : t.Sound) {sunMass : α}
    (valid : Scalar.isFinite sunMass = true ∧ ¬ sunMass ≤ 0) :
    ∃ s, t.solve sunMass = .ok s := by
  obtain ⟨bodies, placed⟩ := Table.exists_place h.physical
  have compensated := (compensation_eq_ok_iff (momentum bodies) _ sunMass).2 ⟨valid, rfl⟩
  exact ⟨_, by rw [solve_eq_of_place placed, compensated]; rfl⟩

/-- A table that can be reached is solved for every mass of the Sun that is
finite and above zero, and for any other only this mass is at fault. -/
theorem solve_reachable {t : Table Float} (h : Reachable t) (sunMass : Float) :
    (sunMass.isFinite = false ∨ sunMass ≤ 0 →
      t.solve sunMass = .error (.invalidSunMass sunMass)) ∧
    (sunMass.isFinite = true ∧ ¬ sunMass ≤ 0 →
      ∃ s, t.solve sunMass = .ok s ∧
        s.bodies.map (fun b => (b.id, b.body)) = t.entries ∧
        (∀ b ∈ s.bodies, b.body.state b.id = .ok b.state) ∧
        s.sunMass = sunMass ∧
        t.momentum = .ok s.momentum ∧
        compensation s.momentum sunMass = .ok s.sunVelocity ∧
        ∀ id, (s.body? id).map Placed.body = t.get? id ∧ ∀ b, s.body? id = some b → b.id = id) := by
  obtain ⟨bodies, placed⟩ := Table.exists_place h.sound.physical
  obtain ⟨ids, states⟩ := (Table.place_eq_ok_iff ..).1 placed
  rw [solve_eq_of_place placed]
  constructor
  · intro invalid
    have invalid : ¬ (sunMass.isFinite = true ∧ ¬ sunMass ≤ 0) := by
      rintro ⟨finite, positive⟩
      rcases invalid with infinite | negative
      · rw [finite] at infinite
        cases infinite
      · exact positive negative
    rw [compensation_eq_error invalid]
    rfl
  · intro valid
    have compensated := (compensation_eq_ok_iff (momentum bodies) _ sunMass).2 ⟨valid, rfl⟩
    refine ⟨⟨bodies, momentum bodies, sunMass, -momentum bodies / sunMass⟩, ?_, ids, states, rfl,
      ?_, compensated, fun id => ⟨?_, fun b hb => ?_⟩⟩
    · rw [compensated]
      rfl
    · rw [Table.momentum, placed]
      rfl
    · rw [Solution.body?, find?_placed, ids]
      rfl
    · exact beq_iff_eq.1 (List.find?_some (p := fun b : Placed Float => b.id == id) hb)

/-- The planets with their Sun, and with a mass that is no number. -/
theorem solve_solarSystem :
    (solarSystem.solve (0 / 0 : Float) = .error (.invalidSunMass (0 / 0))) ∧
      ∃ s : Solution Float, solarSystem.solve Sun.mass = .ok s ∧
        s.bodies.map (fun b => (b.id, b.body)) = planets ∧
        (∀ b ∈ s.bodies, b.body.state b.id = .ok b.state) ∧
        s.sunMass = Sun.mass ∧
        solarSystem.momentum = .ok s.momentum ∧
        compensation s.momentum Sun.mass = .ok s.sunVelocity ∧
        ∀ id, (s.body? id).map Placed.body = solarSystem.get? id ∧
          ∀ b, s.body? id = some b → b.id = id := by
  have noNumber : (0 / 0 : Float).isFinite = false := by decide +kernel
  exact ⟨(solve_reachable reachable_solarSystem _).1 (.inl noNumber),
    (solve_reachable reachable_solarSystem _).2 Sun.mass_valid⟩

end Periapsis
