import Mathlib.Logic.ExistsUnique
import Periapsis.Proofs.Scenario
import Periapsis.Proofs.Text.Capital

/-!
# Names in a scenario

Every body of a scenario has the capital form of its key for a name
(`named_iff`). Which ids are the Sun's is told by the case of ASCII letters
only, but a name is made with the capitals of all letters. The two rules part
at one id, which starts with the long s (U+017F): it is not the Sun's, and its
name is (`named_sun_iff`). So the Sun has its name to itself exactly when no
body of the table has this id (`existsUnique_named_sun_iff`).
-/

namespace Periapsis

namespace Scenario

/-- A key leads to a body with a name. -/
def Named {α : Type} (scenario : Scenario α) (key name : String) : Prop :=
  ∃ actor, scenario.bodies.get? key = some actor ∧ actor.name = name

variable {α : Type} [Scalar α] {t : Table α} {sunMass : α} {s : Solution α} {timeStep : Int}
  {scenario : Scenario α}

/-- The Sun and the bodies of the table are named by their keys, and nothing else is. -/
theorem named_iff (h : t.Sound) (solved : t.solve sunMass = .ok s)
    (made : ofSolution s timeStep = .ok scenario) (key name : String) :
    scenario.Named key name ↔ (key = sunId ∨ key ∈ t.ids) ∧ Text.capitalized key = name := by
  unfold Named
  simp only [Roster.get?_eq_some_iff, (perm_entries h solved made).mem_iff, List.mem_cons,
    List.mem_map, Prod.mk.injEq, ← map_id_of_solve solved]
  constructor
  · rintro ⟨_, ⟨rfl, rfl⟩ | ⟨b, mem, rfl, rfl⟩, rfl⟩
    · exact ⟨.inl rfl, rfl⟩
    · exact ⟨.inr ⟨b, mem, rfl⟩, rfl⟩
  · rintro ⟨rfl | ⟨b, mem, rfl⟩, rfl⟩
    · exact ⟨sun s, .inl ⟨rfl, rfl⟩, rfl⟩
    · exact ⟨actor b, .inr ⟨b, mem, rfl, rfl⟩, rfl⟩

theorem named_sun_iff (h : t.Sound) (solved : t.solve sunMass = .ok s)
    (made : ofSolution s timeStep = .ok scenario) (key : String) :
    scenario.Named key "Sun" ↔ key = "sun" ∨ key = "ſun" ∧ "ſun" ∈ t.ids := by
  -- The third text with this capital form is an id of the Sun, which no body has.
  have reserved : "Sun" ∉ t.ids := fun mem =>
    absurd (h.noSun "Sun" mem) (by decide)
  rw [named_iff h solved made, Text.capitalized_eq_sun_iff]
  constructor
  · rintro ⟨there, rfl | rfl | rfl⟩
    · exact .inl rfl
    · rcases there with sun | mem
      · exact absurd sun (by decide)
      · exact absurd mem reserved
    · rcases there with sun | mem
      · exact absurd sun (by decide)
      · exact .inr ⟨rfl, mem⟩
  · rintro (rfl | ⟨rfl, mem⟩)
    · exact ⟨.inl rfl, .inl rfl⟩
    · exact ⟨.inr mem, .inr (.inr rfl)⟩

theorem existsUnique_named_sun_iff (h : t.Sound) (solved : t.solve sunMass = .ok s)
    (made : ofSolution s timeStep = .ok scenario) :
    (∃! key, scenario.Named key "Sun") ↔ "ſun" ∉ t.ids := by
  simp only [named_sun_iff h solved made]
  constructor
  · intro unique mem
    have same : "sun" = "ſun" := unique.unique (.inl rfl) (.inr ⟨rfl, mem⟩)
    exact absurd same (by decide)
  · intro noTwin
    refine ⟨"sun", .inl rfl, ?_⟩
    rintro key (rfl | ⟨-, mem⟩)
    · rfl
    · exact absurd mem noTwin

end Scenario

/-- In the scenario of a system that can be reached, the name of the Sun is that
of the Sun, and of one other body where the table has one: that with the id
"ſun". So the name is the Sun's alone exactly when no body has this id. -/
theorem sun_named_alone_iff {t : Table Float} (h : Reachable t) {sunMass : Float}
    (valid : sunMass.isFinite = true ∧ ¬ sunMass ≤ 0) {timeStep : Int}
    (inRange : 1 ≤ timeStep ∧ timeStep ≤ maxTimeStep) :
    ∃ s scenario, t.solve sunMass = .ok s ∧ Scenario.ofSolution s timeStep = .ok scenario ∧
      (∀ key, scenario.Named key "Sun" ↔ key = "sun" ∨ key = "ſun" ∧ "ſun" ∈ t.ids) ∧
      ((∃! key, scenario.Named key "Sun") ↔ "ſun" ∉ t.ids) := by
  obtain ⟨s, solved⟩ := exists_solve h.sound valid
  have made := (Scenario.ofSolution_eq_ok_iff s timeStep _).2 ⟨inRange, rfl⟩
  exact ⟨s, _, solved, made, Scenario.named_sun_iff h.sound solved made,
    Scenario.existsUnique_named_sun_iff h.sound solved made⟩

/-- Among the planets no body has that id. -/
theorem sun_named_alone_planets :
    Reachable solarSystem ∧ ((Sun.mass : Float).isFinite = true ∧ ¬ (Sun.mass : Float) ≤ 0) ∧
      ∃ s scenario, solarSystem.solve (Sun.mass : Float) = .ok s ∧
        Scenario.ofSolution s 60 = .ok scenario ∧ ∃! key, scenario.Named key "Sun" := by
  have inRange : 1 ≤ (60 : Int) ∧ (60 : Int) ≤ maxTimeStep := by decide
  obtain ⟨s, scenario, solved, made, -, alone⟩ :=
    sun_named_alone_iff reachable_solarSystem Sun.mass_valid inRange
  exact ⟨reachable_solarSystem, Sun.mass_valid, s, scenario, solved, made, alone.2 (by decide)⟩

/-- A body whose id starts with the long s. -/
def longSun : Table Float :=
  ⟨[("ſun", ⟨1, 1, 1, ⟨0, 0, 0⟩, none, none⟩)]⟩

/-- It is accepted, and has the name of the Sun beside the Sun. -/
theorem two_named_sun :
    Table.ofEntries longSun.entries = .ok longSun ∧
      ∃ s scenario, longSun.solve 1 = .ok s ∧ Scenario.ofSolution s 1 = .ok scenario ∧
        scenario.Named "sun" "Sun" ∧ scenario.Named "ſun" "Sun" ∧
        ¬ ∃! key, scenario.Named key "Sun" := by
  have sound : longSun.Sound := by decide +kernel
  have positive : (1 : Float).isFinite = true ∧ ¬ (1 : Float) ≤ 0 := by decide +kernel
  obtain ⟨s, solved⟩ := exists_solve sound positive
  have made := (Scenario.ofSolution_eq_ok_iff s 1 _).2 ⟨by decide, rfl⟩
  have there : "ſun" ∈ longSun.ids := by decide
  refine ⟨(Table.ofEntries_eq_ok_iff ..).2 ⟨sound, rfl⟩, s, _, solved, made, ?_, ?_, ?_⟩
  · exact (Scenario.named_sun_iff sound solved made _).2 (.inl rfl)
  · exact (Scenario.named_sun_iff sound solved made _).2 (.inr ⟨rfl, there⟩)
  · rw [Scenario.existsUnique_named_sun_iff sound solved made, not_not]
    exact there

end Periapsis
