import Periapsis.CommandLine
import Periapsis.Proofs.Disk
import Periapsis.Proofs.Scenario
import Periapsis.Proofs.TableFile.Export

/-!
# Runs of the program

What arguments that are taken ask for, and what a run on them prints and writes:

* `inRange_of_ofArguments`: a time step that is taken is one of the simulator's;
* `run_of_solved`: a run whose system is solved prints the report of the
  solution and writes the files of `Options.files`, up to the first that cannot
  be made;
* `export_fixed_point`: an exported table is the table in use again, by itself
  and in a run that loads it.
-/

namespace Periapsis.CommandLine

/-! ## Arguments -/

theorem inRange_of_readTimeStep? {text : List Char} {n : Int} (h : readTimeStep? text = some n) :
    1 ≤ n ∧ n ≤ maxTimeStep := by
  revert h
  fun_cases readTimeStep? text with
  | case1 negative digits _ _ size value inRange =>
    intro h
    rw [Option.some.injEq] at h
    exact h ▸ inRange
  | case2 | case3 => exact nofun

/-- A time step that the simulator can keep, if one is given. -/
def Options.InRange (o : Options) : Prop :=
  ∀ n ∈ o.timeStep, 1 ≤ n ∧ n ≤ maxTimeStep

theorem eq_of_give {β : Type} {old new v : Option β} (h : give old new = some v) : v = new := by
  unfold give at h
  split at h <;> cases h
  rfl

theorem Options.InRange.set? {o o' : Options} (h : o.InRange) {name value : String}
    (set : o.set? name value = some o') : o'.InRange := by
  unfold Options.set? at set
  split at set
  · cases set
  split at set
  -- Only one option changes the time step, and none but that one has to read it.
  case h_5 =>
    obtain ⟨step, given, rfl⟩ := Option.map_eq_some_iff.1 set
    intro n hn
    exact inRange_of_readTimeStep? ((eq_of_give given).symm.trans hn)
  case h_7 => cases set
  all_goals
    obtain ⟨_, -, rfl⟩ := Option.map_eq_some_iff.1 set
    exact h

theorem inRange_of_ofArgumentsWith {o o' : Options} {arguments : List String} (h : o.InRange)
    (asked : Request.ofArgumentsWith o arguments = .solve o') : o'.InRange := by
  fun_induction Request.ofArgumentsWith o arguments with
  | case1 | case2 => cases asked; exact h
  | case6 _ _ _ _ _ _ _ set ih => exact ih (h.set? set) asked
  | case9 _ _ _ _ _ _ _ _ set ih => exact ih (h.set? set) asked
  | case3 | case4 | case5 | case7 | case8 | case10 | case11 | case12 => cases asked

theorem inRange_of_ofArguments {arguments : List String} {o : Options}
    (asked : Request.ofArguments arguments = .solve o) : o.InRange :=
  inRange_of_ofArgumentsWith (o := {}) nofun asked

/-! ## Files -/

/-- The paths that are written to, in their order. -/
def Options.paths (o : Options) : List String :=
  o.csv.toList ++ o.scenario.toList ++ o.exportBodies.toList

/-- The paths with texts for the states, the scenario and the table. -/
def Options.files (o : Options) (states scenario table : String) : List (String × String) :=
  o.csv.toList.map (·, states) ++ o.scenario.toList.map (·, scenario)
    ++ o.exportBodies.toList.map (·, table)

/-- All files are written exactly when each of them can be. -/
theorem writeFiles_files_iff (o : Options) (states scenario table : String) (disk : Disk) :
    (disk.writeFiles (o.files states scenario table)).2 = true ↔
      ∀ path ∈ o.paths, disk.Writable path := by
  have paths : (o.files states scenario table).map Prod.fst = o.paths := by
    simp [Options.files, Options.paths, Function.comp_def]
  rw [Disk.writeFiles_eq_true_iff, ← paths, List.forall_mem_map]

/-- A time step that is taken has its scenario. -/
theorem exists_scenario {o : Options} (h : o.InRange) (s : Solution Float) :
    ∃ scenario, Scenario.ofSolution s (o.timeStep.getD Scenario.defaultTimeStep) = .ok scenario := by
  have inRange : 1 ≤ o.timeStep.getD Scenario.defaultTimeStep ∧
      o.timeStep.getD Scenario.defaultTimeStep ≤ maxTimeStep := by
    cases given : o.timeStep with
    | none => decide
    | some n => exact h n given
  exact ⟨_, (Scenario.ofSolution_eq_ok_iff ..).2 ⟨inRange, rfl⟩⟩

theorem scenarioText_eq_ok {o : Options} {s : Solution Float} {scenario : Scenario Float}
    (made : Scenario.ofSolution s (o.timeStep.getD Scenario.defaultTimeStep) = .ok scenario) :
    scenarioText o s = .ok (ScenarioFile.write scenario) := by
  rw [scenarioText, made]
  rfl

/-- The text of the scenario of a solution. -/
theorem exists_scenarioText {o : Options} (h : o.InRange) (s : Solution Float) :
    ∃ scenario, ∀ o' : Options, o'.timeStep = o.timeStep → scenarioText o' s = .ok scenario := by
  obtain ⟨scenario, made⟩ := exists_scenario h s
  exact ⟨ScenarioFile.write scenario, fun o' same => scenarioText_eq_ok (same ▸ made)⟩

/-- Outputs whose texts are there are written like files. -/
theorem writeAll_eq_writeFiles {outputs : List Output} {files : List (String × String)}
    (h : List.Forall₂ (fun output file => output.path = file.1 ∧ output.text = .ok file.2) outputs
      files) (disk : Disk) :
    (writeAll disk outputs).1 = (disk.writeFiles files).1 ∧
      ((writeAll disk outputs).2 = none ↔ (disk.writeFiles files).2 = true) := by
  induction h generalizing disk with
  | nil => exact ⟨rfl, fun _ => rfl, fun _ => rfl⟩
  | @cons output file outputs files same _ ih =>
    obtain ⟨path, text⟩ := file
    cases written : disk.write path text with
    | some disk' =>
      simp only [writeAll, Disk.writeFiles, same.1, same.2, written]
      exact ih disk'
    | none =>
      simp [writeAll, Disk.writeFiles, same.1, same.2, written]

theorem forall₂_outputs {o : Options} {t : Table Float} {s : Solution Float} {scenario : String}
    (made : scenarioText o s = .ok scenario) :
    List.Forall₂ (fun output file => output.path = file.1 ∧ output.text = .ok file.2)
      (outputs o t s) (o.files (Report.states s) scenario (TableFile.write t)) := by
  unfold outputs Options.files
  rw [made]
  refine List.rel_append (List.rel_append ?_ ?_) ?_ <;>
  · rw [List.forall₂_map_left_iff, List.forall₂_map_right_iff]
    exact List.forall₂_same.2 fun path _ => ⟨rfl, rfl⟩

/-! ## Runs -/

theorem run_eq_of_solved {arguments : List String} {disk : Disk} {o : Options} {t : Table Float}
    {s : Solution Float} (asked : Request.ofArguments arguments = .solve o)
    (solved : o.solved disk.lookup = .ok (t, s)) :
    run arguments disk = {
      exit := if (writeAll disk (outputs o t s)).2.isSome then 1 else 0
      stdout := Report.text s
      trouble := (writeAll disk (outputs o t s)).2
      disk := (writeAll disk (outputs o t s)).1
      unbalanced := !s.isBalanced } := by
  simp only [run, asked, solved]

/-- What is printed and written once the system is solved. -/
theorem run_of_solved {arguments : List String} {disk : Disk} {o : Options} {t : Table Float}
    {s : Solution Float} {scenario : String} (asked : Request.ofArguments arguments = .solve o)
    (solved : o.solved disk.lookup = .ok (t, s)) (made : scenarioText o s = .ok scenario) :
    (run arguments disk).stdout = Report.text s ∧
      disk.writeFiles (o.files (Report.states s) scenario (TableFile.write t)) =
        ((run arguments disk).disk, decide ((run arguments disk).exit = 0)) := by
  obtain ⟨written, all⟩ := writeAll_eq_writeFiles (forall₂_outputs (t := t) made) disk
  rw [run_eq_of_solved asked solved]
  refine ⟨rfl, Prod.ext written.symm ?_⟩
  rw [Bool.eq_iff_iff, ← all, decide_eq_true_eq]
  cases (writeAll disk (outputs o t s)).2 <;> simp

/-- A run ends well exactly when each of its files can be written. -/
theorem exit_eq_zero_iff {arguments : List String} {disk : Disk} {o : Options} {t : Table Float}
    {s : Solution Float} (asked : Request.ofArguments arguments = .solve o)
    (solved : o.solved disk.lookup = .ok (t, s)) :
    (run arguments disk).exit = 0 ↔ ∀ path ∈ o.paths, disk.Writable path := by
  obtain ⟨scenario, made⟩ := exists_scenarioText (inRange_of_ofArguments asked) s
  obtain ⟨-, written⟩ := run_of_solved asked solved (made o rfl)
  rw [← writeFiles_files_iff o (Report.states s) scenario (TableFile.write t), written,
    decide_eq_true_eq]

/-- A run without trouble has solved its system. -/
theorem exists_solved {arguments : List String} {disk : Disk} {o : Options}
    (asked : Request.ofArguments arguments = .solve o) (done : (run arguments disk).exit = 0) :
    ∃ t s, o.solved disk.lookup = .ok (t, s) := by
  cases solved : o.solved disk.lookup with
  | error f => simp only [run, asked, solved] at done; cases done
  | ok pair => exact ⟨pair.1, pair.2, rfl⟩

/-! ## Tables in use -/

/-- The table in the file that is given, or that of the planets. -/
def Options.table (o : Options) (lookup : String → Entry) : Except (Failure Float) (Table Float) :=
  match o.bodies with
  | some path => (lookup path).table
  | none => .ok solarSystem

theorem solved_eq_ok_iff {o : Options} {lookup : String → Entry} {t : Table Float}
    {s : Solution Float} :
    o.solved lookup = .ok (t, s) ↔
      o.table lookup = .ok t ∧ t.solve (o.sunMass.getD Sun.mass) = .ok s := by
  have parts : o.solved lookup = o.table lookup >>= fun t =>
      t.solve (o.sunMass.getD Sun.mass) >>= fun s => pure (t, s) := by
    unfold Options.solved Options.solvedFrom Options.table
    cases o.bodies <;> rfl
  rw [parts]
  constructor
  · intro h
    obtain ⟨t', used, h⟩ := (bind_eq_ok_iff ..).1 h
    obtain ⟨s', solved, h⟩ := (bind_eq_ok_iff ..).1 h
    cases h
    exact ⟨used, solved⟩
  · rintro ⟨used, solved⟩
    exact (bind_eq_ok_iff ..).2 ⟨t, used, (bind_eq_ok_iff ..).2 ⟨s, solved, rfl⟩⟩

/-- The table that a run uses can be read again when it is written. -/
theorem sound_trimmed_of_table {o : Options} {lookup : String → Entry} {t : Table Float}
    (used : o.table lookup = .ok t) : t.Sound ∧ ∀ id ∈ t.ids, Text.Trimmed id.toList := by
  unfold Options.table at used
  split at used
  · rename_i path _
    cases found : lookup path with
    | absent cause => rw [found] at used; cases used
    | directory => rw [found] at used; cases used; exact ⟨Table.sound_empty, nofun⟩
    | file bytes =>
      rw [found] at used
      exact ⟨TableFile.sound_of_read used, TableFile.trimmed_of_read used⟩
  · cases used
    exact ⟨reachable_solarSystem.sound, TableFile.trimmed_solarSystem⟩

/-- The exported table stands where it was asked for after the last file. -/
theorem lookup_export {o : Options} {path : String} (given : o.exportBodies = some path)
    {disk : Disk} {states scenario table : String}
    (done : (disk.writeFiles (o.files states scenario table)).2 = true) :
    (disk.writeFiles (o.files states scenario table)).1.lookup path =
      .file (Utf8.encode table.toList) := by
  simp only [Options.files, given, Option.toList_some, List.map_cons, List.map_nil] at done ⊢
  exact Disk.lookup_of_writeFiles done

/-- A table that was loaded, or that is used where none is given, is read again
as it was written. After a run that exports it and ends well, a run that loads
it with the same mass of the Sun and the same time step prints the same and
writes the same texts to the files that it is asked for; it ends well, too, when
these are files of the first run. -/
theorem export_fixed_point :
    (∀ t : Table Float, (∃ bytes, TableFile.read bytes = .ok t) ∨ t = solarSystem →
      TableFile.Legible t →
      TableFile.read (Utf8.encode (TableFile.write t).toList) = .ok t ∧
        (TableFile.read (Utf8.encode (TableFile.write t).toList)).map TableFile.write =
          .ok (TableFile.write t)) ∧
    ∀ (arguments again : List String) (disk : Disk) (o o' : Options) (path : String),
      Request.ofArguments arguments = .solve o → o.exportBodies = some path →
      (run arguments disk).exit = 0 →
      (∀ t s, o.solved disk.lookup = .ok (t, s) → TableFile.Legible t) →
      Request.ofArguments again = .solve o' → o'.bodies = some path →
      o'.sunMass = o.sunMass → o'.timeStep = o.timeStep →
      let first := run arguments disk
      let second := run again first.disk
      second.stdout = first.stdout ∧
        ∃ states scenario table,
          disk.writeFiles (o.files states scenario table) = (first.disk, true) ∧
          first.disk.writeFiles (o'.files states scenario table) =
            (second.disk, decide (second.exit = 0)) ∧
          ((∀ file ∈ o'.paths, file ∈ o.paths) → second.exit = 0) := by
  constructor
  · rintro t loaded legible
    have back : TableFile.read (Utf8.encode (TableFile.write t).toList) = .ok t := by
      rcases loaded with ⟨bytes, read⟩ | rfl
      · exact TableFile.read_write_of_trimmed (TableFile.sound_of_read read)
          (TableFile.trimmed_of_read read) legible
      · exact TableFile.read_write_of_trimmed reachable_solarSystem.sound
          TableFile.trimmed_solarSystem legible
    rw [back]
    exact ⟨rfl, rfl⟩
  · intro arguments again disk o o' path asked given done legible asked' loads sameMass sameStep
    obtain ⟨t, s, solved⟩ := exists_solved asked done
    obtain ⟨used, solves⟩ := solved_eq_ok_iff.1 solved
    obtain ⟨sound, trimmed⟩ := sound_trimmed_of_table used
    obtain ⟨scenario, made⟩ := exists_scenarioText (inRange_of_ofArguments asked) s
    obtain ⟨printed, written⟩ := run_of_solved asked solved (made o rfl)
    rw [done, decide_eq_true rfl] at written
    have found := lookup_export given (congrArg Prod.snd written)
    rw [written] at found
    have used' : o'.table (run arguments disk).disk.lookup = .ok t := by
      rw [Options.table, loads]
      dsimp only
      rw [found, Entry.table_file]
      exact TableFile.read_write_of_trimmed sound trimmed (legible t s solved)
    have solved' := solved_eq_ok_iff.2 ⟨used', sameMass ▸ solves⟩
    obtain ⟨printed', written'⟩ := run_of_solved asked' solved' (made o' sameStep)
    refine ⟨printed'.trans printed.symm, _, _, _, written, written', fun among => ?_⟩
    rw [exit_eq_zero_iff asked' solved']
    intro file mem
    rw [show (run arguments disk).disk = _ from (congrArg Prod.fst written).symm,
      Disk.writable_of_writeFiles]
    exact (exit_eq_zero_iff asked solved).1 done file (among file mem)

/-- The planets are exported with a scenario, and loaded for another one. -/
theorem export_solarSystem :
    let arguments := ["--export-bodies", "table.csv", "--scenario", "a.yaml"]
    let again := ["--scenario=a.yaml", "--bodies=table.csv"]
    let disk : Disk := { directories := [], files := [] }
    let first := run arguments disk
    let second := run again first.disk
    (TableFile.Legible solarSystem ∧
      TableFile.read (Utf8.encode (TableFile.write solarSystem).toList) = .ok solarSystem) ∧
      first.exit = 0 ∧ second.stdout = first.stdout ∧ second.exit = 0 := by
  intro arguments again disk
  have asked : Request.ofArguments arguments =
      .solve { exportBodies := some "table.csv", scenario := some "a.yaml" } := by rfl
  have asked' : Request.ofArguments again =
      .solve { scenario := some "a.yaml", bodies := some "table.csv" } := by rfl
  obtain ⟨s, solves⟩ := exists_solve reachable_solarSystem.sound Sun.mass_valid
  have solved : Options.solved { exportBodies := some "table.csv", scenario := some "a.yaml" }
      disk.lookup = .ok (solarSystem, s) :=
    solved_eq_ok_iff.2 ⟨rfl, solves⟩
  have done : (run arguments disk).exit = 0 := by
    rw [exit_eq_zero_iff asked solved]
    show ∀ path ∈ ["a.yaml", "table.csv"], disk.Writable path
    rw [List.forall_mem_cons, List.forall_mem_singleton]
    exact ⟨⟨["a.yaml"], by decide, .inl rfl, by decide⟩,
      ["table.csv"], by decide, .inl rfl, by decide⟩
  obtain ⟨printed, -, -, -, -, -, ends⟩ := export_fixed_point.2 arguments again disk _ _
    "table.csv" asked rfl done (fun t' s' other => by
      have same := (Prod.mk.inj (Except.ok.inj (solved.symm.trans other))).1
      exact same ▸ TableFile.legible_solarSystem) asked' rfl rfl rfl
  exact ⟨⟨TableFile.legible_solarSystem,
    (export_fixed_point.1 _ (.inr rfl) TableFile.legible_solarSystem).1⟩, done, printed,
    ends (by decide)⟩

end Periapsis.CommandLine
