import Periapsis.Proofs.CommandLine

/-!
# All or nothing

What can keep the program from solving a system (`Options.Unusable`): the file
of the table cannot be opened, one of its rows is no entry, its entries are not
what a table may hold, or the Sun is not physical. Nothing else can
(`exists_solved_iff`).

Until the system is solved nothing is printed or written, so a run either leaves
everything as it was or prints all of its report, whatever becomes of its files
(`run_all_or_nothing`).

A directory can be opened as the file of a table. Nothing is read from it, and
the table is empty.
-/

namespace Periapsis.CommandLine

/-- What keeps the table that is given, or the mass of the Sun, from being used. -/
inductive Options.Unusable (o : Options) (disk : Disk) : Prop where
  | unopened {path cause : String} :
    o.bodies = some path → disk.lookup path = .absent cause → o.Unusable disk
  /-- A row is no entry, whatever stands in the rows around it. -/
  | row {path : String} {bytes : List UInt8} {header row : Csv.Record} {rows : List Csv.Record}
    {failure : Failure Float} :
    o.bodies = some path → disk.lookup path = .file bytes → Csv.records bytes = header :: rows →
      row ∈ rows → TableFile.entryOf header row = .error failure → o.Unusable disk
  /-- The rows are entries that cannot stand in one table, or not in any. -/
  | entries {path : String} {bytes : List UInt8} {header : Csv.Record} {rows : List Csv.Record}
    {t : Table Float} :
    o.bodies = some path → disk.lookup path = .file bytes → Csv.records bytes = header :: rows →
      List.Forall₂ (fun row entry => TableFile.entryOf header row = .ok entry) rows t.entries →
      ¬ t.Sound → o.Unusable disk
  | sunMass :
    ¬ ((o.sunMass.getD Sun.mass).isFinite = true ∧ ¬ o.sunMass.getD Sun.mass ≤ 0) →
      o.Unusable disk

/-! ## Tables that can be used -/

theorem table_eq_of_file {o : Options} {disk : Disk} {path : String} {entry : Entry}
    (given : o.bodies = some path) (found : disk.lookup path = entry) :
    o.table disk.lookup = entry.table := by
  rw [Options.table, given]
  exact congrArg Entry.table found

/-- Nothing can be solved with what cannot be used. -/
theorem Options.Unusable.not_solved {o : Options} {disk : Disk} (h : o.Unusable disk)
    (t : Table Float) (s : Solution Float) : o.solved disk.lookup ≠ .ok (t, s) := by
  intro solved
  obtain ⟨used, solves⟩ := solved_eq_ok_iff.1 solved
  cases h with
  | unopened given found =>
    rw [table_eq_of_file given found] at used
    cases used
  | row given found records mem fails =>
    rw [table_eq_of_file given found] at used
    obtain ⟨-, looked⟩ := (TableFile.read_eq_ok_iff records t).1 used
    obtain ⟨entry, -, read⟩ := exists_of_mem_of_forall₂ looked.flip mem
    rw [fails] at read
    cases read
  | @entries _ _ _ _ made given found records looked unsound =>
    rw [table_eq_of_file given found] at used
    obtain ⟨sound, looked'⟩ := (TableFile.read_eq_ok_iff records t).1 used
    have entries : made.entries = t.entries :=
      Except.ok.inj (((mapM_eq_ok_iff ..).2 looked).symm.trans ((mapM_eq_ok_iff ..).2 looked'))
    have same : made = t := congrArg Table.mk entries
    exact unsound (same ▸ sound)
  | sunMass invalid =>
    obtain ⟨-, -, -, compensated⟩ := (solve_eq_ok_iff ..).1 solves
    exact invalid ((compensation_eq_ok_iff ..).1 compensated).1

theorem exists_table {o : Options} {disk : Disk} (h : ¬ o.Unusable disk) :
    ∃ t, o.table disk.lookup = .ok t := by
  cases given : o.bodies with
  | none => exact ⟨solarSystem, by rw [Options.table, given]⟩
  | some path =>
    cases found : disk.lookup path with
    | absent cause => exact absurd (.unopened given found) h
    | directory => exact ⟨.empty, table_eq_of_file given found⟩
    | file bytes =>
      rw [table_eq_of_file given found, Entry.table_file]
      cases records : Csv.records bytes with
      | nil => exact ⟨.empty, by rw [TableFile.read, records]⟩
      | cons header rows =>
        cases looked : rows.mapM (TableFile.entryOf header) with
        | error failure =>
          obtain ⟨row, mem, fails⟩ := exists_of_mapM_eq_error looked
          exact absurd (.row given found records mem fails) h
        | ok entries =>
          have looked := (mapM_eq_ok_iff ..).1 looked
          by_cases sound : (⟨entries⟩ : Table Float).Sound
          · exact ⟨⟨entries⟩, (TableFile.read_eq_ok_iff records _).2 ⟨sound, looked⟩⟩
          · exact absurd (.entries given found records looked sound) h

/-- A system is solved exactly when nothing of it is unusable. -/
theorem exists_solved_iff (o : Options) (disk : Disk) :
    (∃ t s, o.solved disk.lookup = .ok (t, s)) ↔ ¬ o.Unusable disk := by
  constructor
  · rintro ⟨t, s, solved⟩ unusable
    exact unusable.not_solved t s solved
  · intro usable
    obtain ⟨t, used⟩ := exists_table usable
    have valid := not_not.1 (mt Options.Unusable.sunMass usable)
    obtain ⟨s, solves⟩ := exists_solve (sound_trimmed_of_table used).1 valid
    exact ⟨t, s, solved_eq_ok_iff.2 ⟨used, solves⟩⟩

/-! ## Runs -/

/-- A run that ends early leaves nothing behind. -/
theorem run_of_not_solved {arguments : List String} {o : Options} {disk : Disk}
    (asked : Request.ofArguments arguments = .solve o)
    (fails : ∀ t s, o.solved disk.lookup ≠ .ok (t, s)) :
    ∃ failure, run arguments disk = .early 1 "" (some (.failure failure)) disk := by
  cases solved : o.solved disk.lookup with
  | error failure => exact ⟨failure, by simp only [run, asked, solved]⟩
  | ok pair => exact absurd solved (fails pair.1 pair.2)

/-- A run whose arguments are refused, whose table cannot be opened, read or
accepted, or whose Sun is not physical, fails, prints nothing, and leaves the
disk as it was. Every other run that does not ask for help or the version prints
the whole report of the table in use, also when a file cannot be written
afterwards and the run fails. -/
theorem run_all_or_nothing (arguments : List String) (disk : Disk) :
    (Request.ofArguments arguments = .refused ∨
        (∃ o, Request.ofArguments arguments = .solve o ∧ o.Unusable disk) →
      (run arguments disk).exit ≠ 0 ∧ (run arguments disk).stdout = "" ∧
        (run arguments disk).disk = disk) ∧
    ∀ o, Request.ofArguments arguments = .solve o → ¬ o.Unusable disk →
      ∃ t s, o.table disk.lookup = .ok t ∧ t.solve (o.sunMass.getD Sun.mass) = .ok s ∧
        (run arguments disk).stdout = Report.text s ∧
        ((run arguments disk).exit = 0 ↔ ∀ path ∈ o.paths, disk.Writable path) := by
  constructor
  · rintro (refused | ⟨o, asked, unusable⟩)
    · have ran : run arguments disk = .early 2 "" none disk := by simp only [run, refused]
      rw [ran]
      exact ⟨Nat.succ_ne_zero _, rfl, rfl⟩
    · obtain ⟨failure, ran⟩ := run_of_not_solved asked unusable.not_solved
      rw [ran]
      exact ⟨Nat.succ_ne_zero _, rfl, rfl⟩
  · intro o asked usable
    obtain ⟨t, s, solved⟩ := (exists_solved_iff o disk).2 usable
    obtain ⟨used, solves⟩ := solved_eq_ok_iff.1 solved
    obtain ⟨scenario, made⟩ := exists_scenarioText (inRange_of_ofArguments asked) s
    exact ⟨t, s, used, solves, (run_of_solved asked solved (made o rfl)).1,
      exit_eq_zero_iff asked solved⟩

/-- A table of a rock, and one with a row more that has no numbers. -/
def rockDisk : Disk :=
  let header := "id,mass,periapsis,speed,argument_of_periapsis,inclination," ++
    "longitude_of_ascending_node\n"
  let bytes (text : String) : List UInt8 := Utf8.encode text.toList
  { directories := []
    files := [(["rock.csv"], bytes (header ++ "rock,2,10,3,0,0,0\n")),
      (["rocks.csv"], bytes (header ++ "rock,2,10,3,0,0,0\nstone,,,,,,\n")),
      (["out.csv"], bytes "kept")] }

/-- The second row of one table is at fault, and nothing is written over. The
other one is reported, and then there is no directory for its file. -/
theorem run_rockDisk :
    let unread := run ["--csv", "out.csv", "--bodies", "rocks.csv"] rockDisk
    let unwritten := run ["--bodies=rock.csv", "--sun-mass=3", "--csv=no/out.csv"] rockDisk
    (unread.exit ≠ 0 ∧ unread.stdout = "" ∧ unread.disk = rockDisk) ∧ unwritten.exit ≠ 0 ∧
      unwritten.stdout = "rock\n10, 0, 0\n0, 0, 3\n\nTotal momentum: [0, 0, 6]\n" ++
        "Sun velocity for zero momentum: [-0, -0, -2]\n" := by
  constructor
  · have asked : Request.ofArguments ["--csv", "out.csv", "--bodies", "rocks.csv"] =
        .solve { csv := some "out.csv", bodies := some "rocks.csv" } := by rfl
    have refused : (rockDisk.lookup "rocks.csv").table.toOption = none := by decide +kernel
    refine (run_all_or_nothing ..).1 (.inr ⟨_, asked, not_not.1 (mt (exists_solved_iff ..).2 ?_)⟩)
    rintro ⟨t, s, solved⟩
    rw [show (rockDisk.lookup "rocks.csv").table = _ from (solved_eq_ok_iff.1 solved).1] at refused
    cases refused
  · let o : Options := { bodies := some "rock.csv", sunMass := some 3, csv := some "no/out.csv" }
    have asked : Request.ofArguments ["--bodies=rock.csv", "--sun-mass=3", "--csv=no/out.csv"] =
        .solve o := by rfl
    have report : ∀ t ∈ (o.table rockDisk.lookup).toOption, ∀ s ∈ (t.solve 3).toOption,
        Report.text s = "rock\n10, 0, 0\n0, 0, 3\n\nTotal momentum: [0, 0, 6]\n" ++
          "Sun velocity for zero momentum: [-0, -0, -2]\n" := by decide +kernel
    have usable : ¬ o.Unusable rockDisk := by
      refine (exists_solved_iff ..).1 ?_
      have solved : (o.solved rockDisk.lookup).toOption.isSome = true := by decide +kernel
      cases made : o.solved rockDisk.lookup with
      | error f => rw [made] at solved; cases solved
      | ok pair => exact ⟨pair.1, pair.2, rfl⟩
    have closed : ¬ rockDisk.Writable "no/out.csv" := by
      rintro ⟨place, resolved, -⟩
      cases resolved
    obtain ⟨t, s, used, solves, printed, ends⟩ := (run_all_or_nothing ..).2 o asked usable
    have solves : t.solve 3 = .ok s := solves
    refine ⟨fun done => closed (ends.1 done _ ?_), ?_⟩
    · decide
    · rw [printed]
      exact report t (by rw [used]; rfl) s (by rw [solves]; rfl)

end Periapsis.CommandLine
