import Periapsis.Proofs.CommandLine.Outcome

/-!
# The files of a run

A run whose system is solved goes through the files that it is asked for: the
states, the scenario, the table. It either writes all of them, or stops at the
first that cannot be made; then those before it are written, and the disk is
otherwise as it was (`Outcome.Staged`).

* `staged_of_solved`: every run with a solved system ends so, with texts that
  depend on the table, the mass of the Sun and the time step only;
* `run_in_stages`: so it fails exactly when a file cannot be made, and never on
  account of something that was computed.
-/

namespace Periapsis.CommandLine

/-! ## Troubles -/

/-- Trouble with making a file, and not with anything that was computed. -/
inductive Trouble.OfFile : Trouble → Prop where
  | system : OfFile .system
  | failure (cause : String) : OfFile (.failure (.file cause))

theorem ofFile_of_mem_outputs {o : Options} {t : Table Float} {s : Solution Float} {output : Output}
    (h : output ∈ outputs o t s) : output.trouble.OfFile := by
  simp only [outputs, List.mem_append, List.mem_map] at h
  rcases h with (⟨_, -, rfl⟩ | ⟨_, -, rfl⟩) | ⟨_, -, rfl⟩
  · exact .system
  · exact .failure _
  · exact .system

/-- Where every text is there, the trouble is that of a file. -/
theorem exists_of_writeAll {outputs : List Output}
    (texts : ∀ output ∈ outputs, ∃ text, output.text = .ok text) {disk : Disk} {trouble : Trouble}
    (h : (writeAll disk outputs).2 = some trouble) :
    ∃ output ∈ outputs, output.trouble = trouble := by
  induction outputs generalizing disk with
  | nil => simp [writeAll] at h
  | cons output outputs ih =>
    obtain ⟨⟨text, there⟩, rest⟩ := List.forall_mem_cons.1 texts
    rw [writeAll, there] at h
    dsimp only at h
    split at h
    · obtain ⟨later, mem, same⟩ := ih rest h
      exact ⟨later, List.mem_cons_of_mem output mem, same⟩
    · exact ⟨output, List.mem_cons_self, by simpa using h⟩

/-! ## Stages -/

/-- How a run ends that is to write some files, in this order. -/
inductive Outcome.Staged (disk : Disk) (files : List (String × String)) (last : Outcome) :
    Prop where
  /-- All of them can be made and are written. -/
  | complete : (∀ file ∈ files, disk.Writable file.1) → last.exit = 0 → last.trouble = none →
    disk.Written files last.disk → Staged disk files last
  /-- One of them cannot be made. It is as it was, and only those before it are written. -/
  | broken {before later : List (String × String)} {path text : String} {trouble : Trouble} :
    files = before ++ (path, text) :: later → (∀ file ∈ before, disk.Writable file.1) →
    ¬ disk.Writable path → last.exit = 1 → last.trouble = some trouble → trouble.OfFile →
    last.disk.lookup path = disk.lookup path → disk.Written before last.disk →
    Staged disk files last

/-- What a run with a solved system leaves behind. -/
theorem staged_of_solved {arguments : List String} {disk : Disk} {o : Options} {t : Table Float}
    {s : Solution Float} {scenario : String} (asked : Request.ofArguments arguments = .solve o)
    (solved : o.solved disk.lookup = .ok (t, s)) (made : scenarioText o s = .ok scenario) :
    (run arguments disk).Staged disk (o.files (Report.states s) scenario (TableFile.write t)) := by
  have same := forall₂_outputs (t := t) made
  obtain ⟨written, all⟩ := writeAll_eq_writeFiles same disk
  rw [run_eq_of_solved asked solved]
  rcases Disk.written_writeFiles (o.files (Report.states s) scenario (TableFile.write t)) disk with
    ⟨done, free, holds⟩ | ⟨stopped, before, path, text, later, files, free, taken, holds⟩
  · have noTrouble := all.2 done
    refine .complete free ?_ noTrouble (written.symm ▸ holds)
    simp [noTrouble]
  · cases trouble : (writeAll disk (outputs o t s)).2 with
    | none => simp [all.1 trouble] at stopped
    | some trouble' =>
      have texts : ∀ output ∈ outputs o t s, ∃ text, output.text = .ok text := fun output mem => by
        obtain ⟨file, -, -, text⟩ := exists_of_mem_of_forall₂ same.flip mem
        exact ⟨file.2, text⟩
      obtain ⟨output, mem, rfl⟩ := exists_of_writeAll texts trouble
      refine .broken files free taken rfl rfl (ofFile_of_mem_outputs mem) ?_ (written.symm ▸ holds)
      rw [written]
      exact holds.lookup_of_not_writable free taken

theorem Outcome.Staged.exit_eq_one_iff {disk : Disk} {files : List (String × String)}
    {last : Outcome} (h : last.Staged disk files) :
    last.exit = 1 ↔ ∃ file ∈ files, ¬ disk.Writable file.1 := by
  rcases h with ⟨free, exit, -, -⟩ | ⟨rfl, -, taken, exit, -, -, -, -⟩
  · refine iff_of_false (by simp [exit]) ?_
    rintro ⟨file, mem, taken⟩
    exact taken (free file mem)
  · exact iff_of_true exit ⟨_, List.mem_append_right _ List.mem_cons_self, taken⟩

/-- A run whose system is solved writes the states, the scenario and the table
to the files that it is asked for, in this order and up to the first that cannot
be made. It fails exactly when there is one. Every other run with the same
table, mass of the Sun and time step writes the same texts, whatever files it is
asked for. -/
theorem run_in_stages {arguments : List String} {disk : Disk} {o : Options} {t : Table Float}
    {s : Solution Float} (asked : Request.ofArguments arguments = .solve o)
    (used : o.table disk.lookup = .ok t) (solves : t.solve (o.sunMass.getD Sun.mass) = .ok s) :
    ∃ scenario,
      Scenario.ofSolution s (o.timeStep.getD Scenario.defaultTimeStep) = .ok scenario ∧
      let files (o : Options) : List (String × String) :=
        o.files (Report.states s) (ScenarioFile.write scenario) (TableFile.write t)
      (run arguments disk).Staged disk (files o) ∧
        ((run arguments disk).exit = 1 ↔ ∃ file ∈ files o, ¬ disk.Writable file.1) ∧
        ∀ (others : List String) (disk' : Disk) (o' : Options),
          Request.ofArguments others = .solve o' → o'.table disk'.lookup = .ok t →
          o'.sunMass.getD Sun.mass = o.sunMass.getD Sun.mass →
          o'.timeStep.getD Scenario.defaultTimeStep = o.timeStep.getD Scenario.defaultTimeStep →
          (run others disk').Staged disk' (files o') := by
  obtain ⟨scenario, made⟩ := exists_scenario (inRange_of_ofArguments asked) s
  have staged := staged_of_solved asked (solved_eq_ok_iff.2 ⟨used, solves⟩) (scenarioText_eq_ok made)
  refine ⟨scenario, made, staged, staged.exit_eq_one_iff, ?_⟩
  intro others disk' o' asked' used' sameMass sameStep
  refine staged_of_solved asked' (solved_eq_ok_iff.2 ⟨used', ?_⟩) (scenarioText_eq_ok ?_)
  · rw [sameMass, solves]
  · rw [sameStep, made]

/-- The states take the place of a file, there is no directory for the scenario,
and the file that the table was to be written to is kept. -/
theorem run_in_stages_rockDisk :
    let last := run ["--bodies=rock.csv", "--sun-mass=3", "--csv=out.csv",
      "--scenario=no/a.yaml", "--export-bodies=rocks.csv"] rockDisk
    last.exit = 1 ∧ (∃ trouble, last.trouble = some trouble ∧ trouble.OfFile) ∧
      (∃ t s, (rockDisk.lookup "rock.csv").table = .ok t ∧ t.solve 3 = .ok s ∧
        last.disk.lookup "out.csv" = .file (Utf8.encode (Report.states s).toList)) ∧
      last.disk.lookup "rocks.csv" = rockDisk.lookup "rocks.csv" := by
  let o : Options := {
    bodies := some "rock.csv", sunMass := some 3, csv := some "out.csv"
    scenario := some "no/a.yaml", exportBodies := some "rocks.csv" }
  have asked : Request.ofArguments ["--bodies=rock.csv", "--sun-mass=3", "--csv=out.csv",
      "--scenario=no/a.yaml", "--export-bodies=rocks.csv"] = .solve o := by rfl
  obtain ⟨t, s, used, solves⟩ : ∃ t s, o.table rockDisk.lookup = .ok t ∧ t.solve 3 = .ok s := by
    obtain ⟨⟨t, s⟩, solved⟩ := exists_of_isSome_toOption (x := o.solved rockDisk.lookup)
      (by decide +kernel)
    exact ⟨t, s, solved_eq_ok_iff.1 solved⟩
  have open' : rockDisk.Writable "out.csv" :=
    ⟨["out.csv"], by decide +kernel, .inr ⟨_, rfl⟩, by decide⟩
  have closed : ¬ rockDisk.Writable "no/a.yaml" := by
    rintro ⟨place, resolved, -⟩
    cases resolved
  obtain ⟨scenario, -, staged, fails, -⟩ := run_in_stages asked used solves
  have unmade := fails.2 ⟨("no/a.yaml", ScenarioFile.write scenario), by simp [o, Options.files], closed⟩
  rcases staged with ⟨-, exit, -, -⟩ | @⟨before, _, path, _, _, files, free, taken, -, ends, ofFile,
    -, written⟩
  · simp [exit] at unmade
  -- The states are written, and they alone: the scenario is the first that cannot be made.
  have first : before = [("out.csv", Report.states s)] := by
    simp only [o, Options.files, Option.toList_some, List.map_cons, List.map_nil,
      List.cons_append, List.nil_append] at files
    rcases before with _ | ⟨first, _ | ⟨second, before⟩⟩
    · simp only [List.nil_append, List.cons.injEq, Prod.mk.injEq] at files
      exact absurd (files.1.1 ▸ open') taken
    · simp_all
    · simp only [List.cons_append, List.cons.injEq] at files
      have second_free : rockDisk.Writable second.1 := free second (by simp)
      rw [← files.2.1] at second_free
      exact absurd second_free closed
  subst first
  refine ⟨unmade, ⟨_, ends, ofFile⟩, ⟨t, s, used, solves, ?_⟩, ?_⟩
  · exact written.last (List.nil_append _).symm (by simp)
  · refine written.lookup_eq ?_
    rw [List.forall_mem_singleton]
    show rockDisk.resolve "out.csv" ≠ rockDisk.resolve "rocks.csv"
    decide +kernel

end Periapsis.CommandLine
