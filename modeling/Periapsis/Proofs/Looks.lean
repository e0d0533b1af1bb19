import Periapsis.Proofs.Dependence
import Periapsis.Proofs.Scenario
import Periapsis.Report

/-!
# Looks

The radius and the colour of a body are for display only. What is solved of a
table without them (`Table.plain`) is what is solved of the table, without them
(`plain_solution`), and the residual, the report and the state file of a
solution are those of the plain one (`text_plain`, `states_plain`). Only a
scenario shows looks, and it shows them at the bodies that have them
(`ofSolution_plain`).

So tables that differ in looks lead to solutions, reports and files that do not
differ, and to scenarios that differ in looks, but not in those of the Sun
(`solve_of_plain_eq`).
-/

namespace Periapsis

variable {α : Type}

/-! ## Without looks -/

def Body.plain (b : Body α) : Body α :=
  { b with radius := none, color := none }

def Table.plain (t : Table α) : Table α :=
  ⟨t.entries.map fun entry => (entry.1, entry.2.plain)⟩

def Placed.plain (b : Placed α) : Placed α :=
  { b with body := b.body.plain }

def Solution.plain (s : Solution α) : Solution α :=
  { s with bodies := s.bodies.map Placed.plain }

theorem Table.ids_plain (t : Table α) : t.plain.ids = t.ids := by
  rw [ids, plain, List.map_map]
  rfl

/-- Solutions that are the same without looks are the same but for looks. -/
theorem Solution.eq_of_plain_eq {s s' : Solution α} (h : s.plain = s'.plain) :
    s.bodies.map (fun b => (b.id, b.state)) = s'.bodies.map (fun b => (b.id, b.state)) ∧
      s.momentum = s'.momentum ∧ s.sunMass = s'.sunMass ∧ s.sunVelocity = s'.sunVelocity := by
  obtain ⟨bodies, momentum, sunMass, sunVelocity⟩ := Solution.mk.inj h
  refine ⟨?_, momentum, sunMass, sunVelocity⟩
  have states := congrArg (List.map fun b => (b.id, b.state)) bodies
  rwa [List.map_map, List.map_map] at states

variable [Scalar α]

/-- A scenario in which only the Sun has looks of its own. -/
def Scenario.plain (scenario : Scenario α) : Scenario α :=
  { scenario with
    bodies := scenario.bodies.map fun key actor =>
      if key = sunId then actor else { actor with color := defaultColor, radius := 0 } }

/-! ## Tables and solutions -/

/-- The checks of a plain body are the first of those of the body. -/
theorem Body.checks_eq_append (b : Body α) : ∃ looks, b.checks = b.plain.checks ++ looks := by
  refine ⟨b.radius.toList.map (fun r => (.radius, r, isMagnitude r)) ++
    (b.color.toList.flatMap Color.components).map (fun c => (.color, c, isShare c)), ?_⟩
  rw [checks, checks, plain, List.append_assoc]
  rfl

theorem Body.offence?_plain {b : Body α} (h : b.offence? = none) : b.plain.offence? = none := by
  obtain ⟨looks, checks⟩ := b.checks_eq_append
  rw [offence?, Option.map_eq_none_iff, checks, List.find?_append, Option.or_eq_none_iff] at h
  rw [offence?, h.1]
  rfl

namespace Table

theorem Sound.plain {t : Table α} (h : t.Sound) : t.plain.Sound := by
  refine ⟨t.ids_plain ▸ h.distinct, t.ids_plain ▸ h.noSun, ?_⟩
  rw [Table.plain, List.forall_mem_map]
  exact fun entry mem => Body.offence?_plain (h.physical entry mem)

theorem placed_plain (t : Table α) : t.plain.placed = t.placed.map Placed.plain := by
  rw [placed, placed, plain, List.map_map, List.map_map]
  rfl

theorem plain_solution (t : Table α) (sunMass : α) :
    (t.solution sunMass).plain = t.plain.solution sunMass := by
  have momentum : Periapsis.momentum (t.placed.map Placed.plain) = Periapsis.momentum t.placed :=
    List.foldl_map
  rw [solution, solution, placed_plain, momentum]
  rfl

end Table

/-! ## Reports and scenarios -/

namespace Solution

theorem residual_plain (s : Solution α) : s.plain.residual = s.residual :=
  rfl

theorem isBalanced_plain (s : Solution α) : s.plain.isBalanced = s.isBalanced :=
  rfl

theorem text_plain (s : Solution Float) : Report.text s.plain = Report.text s := by
  rw [Report.text, Report.text, plain, List.flatMap_map]
  rfl

theorem states_plain (s : Solution Float) : Report.states s.plain = Report.states s := by
  rw [Report.states, Report.states, Report.stateRecords, Report.stateRecords, plain, List.map_map]
  rfl

/-- A scenario of plain bodies is that of the bodies, with looks for the Sun only. -/
theorem ofSolution_plain {s : Solution α} (noSun : ∀ b ∈ s.bodies, b.id ≠ sunId) (timeStep : Int) :
    Scenario.ofSolution s.plain timeStep = (Scenario.ofSolution s timeStep).map Scenario.plain := by
  have bodies : s.plain.bodies.map (fun b => (b.id, Scenario.actor b)) =
      (s.bodies.map fun b => (b.id, Scenario.actor b)).map fun entry => (entry.1,
        if entry.1 = sunId then entry.2
        else { entry.2 with color := Scenario.defaultColor, radius := 0 }) := by
    rw [plain, List.map_map, List.map_map]
    refine List.map_congr_left fun b mem => ?_
    simp only [Function.comp_apply, if_neg (noSun b mem)]
    rfl
  unfold Scenario.ofSolution
  split
  · rw [bodies]
    simp only [Except.map, Scenario.plain, Roster.map_ofList, List.map_cons, if_pos]
    rfl
  · rfl

end Solution

theorem Table.ne_sunId_of_sound {t : Table α} (h : t.Sound) (sunMass : α) :
    ∀ b ∈ (t.solution sunMass).bodies, b.id ≠ sunId := by
  rw [solution, placed, List.forall_mem_map]
  intro entry mem sun
  have notSun := h.noSun entry.1 (List.mem_map_of_mem mem)
  rw [show entry.1 = sunId from sun] at notSun
  exact absurd notSun (by decide)

/-- Tables of the same ids and the same bodies but for their looks fail alike,
or are solved with the same states, the same momentum and the same velocity of
the Sun. What is left over, the verdict on it, the report and the state file are
then the same, and the scenarios differ in looks of other bodies than the Sun at
most. -/
theorem solve_of_plain_eq {entries others : List (String × Body Float)} {t t' : Table Float}
    (made : Table.ofEntries entries = .ok t) (made' : Table.ofEntries others = .ok t')
    (same : t.plain = t'.plain) (sunMass : Float) :
    (∃ failure, t.solve sunMass = .error failure ∧ t'.solve sunMass = .error failure) ∨
    ∃ s s', t.solve sunMass = .ok s ∧ t'.solve sunMass = .ok s' ∧
      (s.bodies.map (fun b => (b.id, b.state)) = s'.bodies.map (fun b => (b.id, b.state)) ∧
        s.momentum = s'.momentum ∧ s.sunMass = s'.sunMass ∧ s.sunVelocity = s'.sunVelocity) ∧
      s.residual = s'.residual ∧ s.isBalanced = s'.isBalanced ∧
      Report.text s = Report.text s' ∧ Report.states s = Report.states s' ∧
      ∀ timeStep, (Scenario.ofSolution s timeStep).map Scenario.plain =
        (Scenario.ofSolution s' timeStep).map Scenario.plain := by
  have sound := ((Table.ofEntries_eq_ok_iff ..).1 made).1
  have sound' := ((Table.ofEntries_eq_ok_iff ..).1 made').1
  by_cases valid : Scalar.isFinite sunMass = true ∧ ¬ sunMass ≤ 0
  · have plain : (t.solution sunMass).plain = (t'.solution sunMass).plain := by
      rw [Table.plain_solution, Table.plain_solution, same]
    refine .inr ⟨_, _, Table.solve_eq_ok_of_sound sound valid,
      Table.solve_eq_ok_of_sound sound' valid, Solution.eq_of_plain_eq plain, ?_, ?_, ?_, ?_,
      fun timeStep => ?_⟩
    · rw [← Solution.residual_plain, plain, Solution.residual_plain]
    · rw [← Solution.isBalanced_plain, plain, Solution.isBalanced_plain]
    · rw [← Solution.text_plain, plain, Solution.text_plain]
    · rw [← Solution.states_plain, plain, Solution.states_plain]
    · rw [← Solution.ofSolution_plain (Table.ne_sunId_of_sound sound sunMass), plain,
        Solution.ofSolution_plain (Table.ne_sunId_of_sound sound' sunMass)]
  · exact .inl ⟨_, Table.solve_eq_error_of_sound sound valid,
      Table.solve_eq_error_of_sound sound' valid⟩

/-- The planets and the planets without looks, around a Sun and around none. -/
theorem solve_of_plain_planets :
    (solarSystem : Table Float).plain ≠ solarSystem ∧
    (∃ failure, solarSystem.solve (0 : Float) = .error failure ∧
      solarSystem.plain.solve (0 : Float) = .error failure) ∧
    ∃ s s', solarSystem.solve (Sun.mass : Float) = .ok s ∧
      solarSystem.plain.solve (Sun.mass : Float) = .ok s' ∧ s.momentum = s'.momentum ∧
      Report.text s = Report.text s' ∧ Report.states s = Report.states s' ∧
      ∀ timeStep, (Scenario.ofSolution s timeStep).map Scenario.plain =
        (Scenario.ofSolution s' timeStep).map Scenario.plain := by
  have noSun : ¬ ((0 : Float).isFinite = true ∧ ¬ (0 : Float) ≤ 0) := by decide +kernel
  have sound : (solarSystem : Table Float).Sound := reachable_solarSystem.sound
  have made := (Table.ofEntries_eq_ok_iff (solarSystem : Table Float).plain.entries _).2
    ⟨sound.plain, rfl⟩
  have same (sunMass : Float) := solve_of_plain_eq Table.ofEntries_planets made rfl sunMass
  refine ⟨by decide +kernel, ?_, ?_⟩
  · rcases same 0 with fails | ⟨s, -, solved, -⟩
    · exact fails
    · rw [Table.solve_eq_error_of_sound sound noSun] at solved
      cases solved
  · rcases same Sun.mass with ⟨failure, fails, -⟩ |
      ⟨s, s', solved, solved', values, -, -, text, states, scenarios⟩
    · rw [Table.solve_eq_ok_of_sound sound Sun.mass_valid] at fails
      cases fails
    · exact ⟨s, s', solved, solved', values.2.1, text, states, scenarios⟩

end Periapsis
