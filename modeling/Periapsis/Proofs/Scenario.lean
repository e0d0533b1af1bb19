import Periapsis.Proofs.Roster
import Periapsis.Proofs.Solution
import Periapsis.Scenario

/-!
# Scenarios of solved systems

The roster of a scenario is filled from the Sun on, and a later entry would
replace an earlier one under the same key. In a sound table no two bodies share
an id and none has the Sun's, so nothing is replaced:

* `perm_entries`: the entries of the scenario are the Sun and the bodies;
* `exists_scenario_of_reachable`: every system that can be reached has its
  scenario, with all that was given and solved in it.
-/

namespace Periapsis

variable {α : Type}

theorem capitalized_sunId : Text.capitalized sunId = "Sun" := by
  decide

variable [Scalar α]

namespace Scenario

theorem ofSolution_eq_ok_iff (s : Solution α) (timeStep : Int) (scenario : Scenario α) :
    ofSolution s timeStep = .ok scenario ↔
      (1 ≤ timeStep ∧ timeStep ≤ maxTimeStep) ∧ scenario = {
        time := timeStep
        bodies := .ofList ((sunId, sun s) :: s.bodies.map fun b => (b.id, actor b)) } := by
  unfold ofSolution
  split
  · rename_i inRange
    simp only [Except.ok.injEq, inRange, and_self, true_and, eq_comm]
  · rename_i outside
    exact ⟨nofun, fun h => absurd h.1 outside⟩

/-- The ids of a solution are those of its table. -/
theorem map_id_of_solve {t : Table α} {sunMass : α} {s : Solution α}
    (solved : t.solve sunMass = .ok s) : s.bodies.map Placed.id = t.ids := by
  obtain ⟨placed, -⟩ := (solve_eq_ok_iff ..).1 solved
  rw [Table.ids, ← ((Table.place_eq_ok_iff ..).1 placed).1, List.map_map]
  rfl

/-- The Sun and the bodies of a sound table stand under keys that differ. -/
theorem nodup_keys {t : Table α} (h : t.Sound) {sunMass : α} {s : Solution α}
    (solved : t.solve sunMass = .ok s) :
    (((sunId, sun s) :: s.bodies.map fun b => (b.id, actor b)).map Prod.fst).Nodup := by
  have ids : (s.bodies.map fun b => (b.id, actor b)).map Prod.fst = t.ids := by
    rw [← map_id_of_solve solved, List.map_map]
    rfl
  rw [List.map_cons, ids, List.nodup_cons]
  refine ⟨fun sun => ?_, h.distinct⟩
  have reserved : isSunId sunId = false := h.noSun sunId sun
  exact absurd reserved (by decide)

/-- No entry of a scenario is lost or replaced. -/
theorem perm_entries {t : Table α} (h : t.Sound) {sunMass : α} {s : Solution α}
    (solved : t.solve sunMass = .ok s) {timeStep : Int} {scenario : Scenario α}
    (made : ofSolution s timeStep = .ok scenario) :
    scenario.bodies.entries.Perm ((sunId, sun s) :: s.bodies.map fun b => (b.id, actor b)) := by
  obtain ⟨-, rfl⟩ := (ofSolution_eq_ok_iff ..).1 made
  exact Roster.perm_ofList (nodup_keys h solved)

/-- Every body of the table is in the scenario under its id. -/
theorem get?_of_mem {t : Table α} (h : t.Sound) {sunMass : α} {s : Solution α}
    (solved : t.solve sunMass = .ok s) {timeStep : Int} {scenario : Scenario α}
    (made : ofSolution s timeStep = .ok scenario) {entry : String × Body α}
    (mem : entry ∈ t.entries) :
    ∃ state, entry.2.state entry.1 = .ok state ∧
      scenario.bodies.get? entry.1 = some (actor ⟨entry.1, entry.2, state⟩) := by
  obtain ⟨placed, -⟩ := (solve_eq_ok_iff ..).1 solved
  obtain ⟨entries, states⟩ := (Table.place_eq_ok_iff ..).1 placed
  rw [← entries] at mem
  obtain ⟨b, hb, rfl⟩ := List.mem_map.1 mem
  refine ⟨b.state, states b hb, (Roster.get?_eq_some_iff ..).2 ?_⟩
  rw [(perm_entries h solved made).mem_iff]
  exact List.mem_cons_of_mem _ (List.mem_map.2 ⟨b, hb, rfl⟩)

end Scenario

/-- A scenario with the Sun and the bodies of a table under their ids and no
other keys, each with its name, its look and its mass, and with the place and
the motion that it has in the solution. -/
structure Scenario.Complete (scenario : Scenario Float) (t : Table Float) (s : Solution Float) :
    Prop where
  length : scenario.bodies.entries.length = t.size + 1
  keys : ∀ key, key ∈ scenario.bodies.keys ↔ key = "sun" ∨ key ∈ t.ids
  sun : scenario.bodies.get? "sun" = some {
    name := "Sun", color := ⟨1.0, 0.85, 0.4⟩, radius := 695.700e6, mass := s.sunMass
    state := ⟨⟨0, 0, 0⟩, s.sunVelocity⟩ }
  body : ∀ id body, (id, body) ∈ t.entries → ∃ state, body.state id = .ok state ∧
    scenario.bodies.get? id = some {
      name := Text.capitalized id, color := body.color.getD ⟨1.0, 1.0, 1.0⟩
      radius := body.radius.getD 0, mass := body.mass, state }

/-- A system that can be reached has its complete scenario for every mass of the
Sun that is finite and above zero, and every time step of the simulator. -/
theorem exists_scenario_of_reachable {t : Table Float} (h : Reachable t) {sunMass : Float}
    (valid : sunMass.isFinite = true ∧ ¬ sunMass ≤ 0) {timeStep : Int}
    (inRange : 1 ≤ timeStep ∧ timeStep ≤ maxTimeStep) :
    ∃ s scenario, t.solve sunMass = .ok s ∧ s.sunMass = sunMass ∧
      Scenario.ofSolution s timeStep = .ok scenario ∧ scenario.time = timeStep ∧
      scenario.Complete t s := by
  obtain ⟨s, solved⟩ := exists_solve h.sound valid
  obtain ⟨-, -, sunMass_eq, -⟩ := (solve_eq_ok_iff ..).1 solved
  have made := (Scenario.ofSolution_eq_ok_iff s timeStep _).2 ⟨inRange, rfl⟩
  have entries := Scenario.perm_entries h.sound solved made
  have ids := Scenario.map_id_of_solve solved
  refine ⟨s, _, solved, sunMass_eq, made, rfl, ?_, fun key => ?_, ?_, fun id body mem => ?_⟩
  · rw [entries.length_eq, List.length_cons, List.length_map, Table.size,
      ← List.length_map Prod.fst, ← Table.ids, ← ids, List.length_map]
  · rw [Roster.keys, (entries.map Prod.fst).mem_iff, List.map_cons, List.mem_cons, List.map_map,
      ← ids]
    rfl
  · rw [Roster.get?_eq_some_iff]
    refine entries.mem_iff.2 (List.mem_cons.2 (.inl ?_))
    rw [Scenario.sun, capitalized_sunId]
    rfl
  · obtain ⟨state, placed, found⟩ := Scenario.get?_of_mem h.sound solved made mem
    exact ⟨state, placed, found⟩

/-- The planets and their Sun, with the longest time step. -/
theorem exists_scenario_of_planets :
    Reachable solarSystem ∧ ((Sun.mass : Float).isFinite = true ∧ ¬ (Sun.mass : Float) ≤ 0) ∧
      ∃ s scenario, solarSystem.solve (Sun.mass : Float) = .ok s ∧ s.sunMass = Sun.mass ∧
        Scenario.ofSolution s 2147483647 = .ok scenario ∧ scenario.time = 2147483647 ∧
        scenario.Complete solarSystem s :=
  ⟨reachable_solarSystem, Sun.mass_valid,
    exists_scenario_of_reachable reachable_solarSystem Sun.mass_valid (by decide)⟩

end Periapsis
