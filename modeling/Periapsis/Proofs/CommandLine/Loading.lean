import Periapsis.Proofs.CommandLine.Outcome
import Periapsis.Proofs.TableFile.Growth

/-!
# Tables that are loaded

What becomes of a table when its file cannot be opened, or not be read to the
end. What has ended before a failing read is what any file begins with that goes
on from there (`Csv.ended_prefix`), so rows are refused as they are in such a
file (`read_of_ended_error`).

A failing read is noticed behind the header only. So a table that was loaded is
that of a whole file, or it is empty and its file broke off in the header
(`loaded_iff`), as a directory does.
-/

namespace Periapsis

/-! ## Streams -/

namespace TableFile

/-- What a table was loaded from. -/
inductive Loaded (opened : Except String Csv.Stream) (t : Table Float) : Prop where
  /-- A file of which everything could be read. -/
  | whole {bytes : List UInt8} : opened = .ok ⟨bytes, none⟩ → read bytes = .ok t → Loaded opened t
  /-- A file of which not even the header could be read. -/
  | headless {bytes : List UInt8} {cause : String} : opened = .ok ⟨bytes, some cause⟩ →
    Csv.ended bytes = [] → t = .empty → Loaded opened t

theorem readStream_of_ended {bytes : List UInt8} {header : Csv.Record} {rows : List Csv.Record}
    (h : Csv.ended bytes = header :: rows) (cause : String) :
    readStream ⟨bytes, some cause⟩ =
      (rows.foldlM (readRecord header) .empty >>= fun _ => .error (.csv (.unavailable cause))) := by
  simp only [readStream, h]
  rfl

/-- A failing read behind the header keeps the table from being loaded, unless
it is not reached. -/
theorem readStream_of_header {bytes : List UInt8} (h : Csv.ended bytes ≠ []) (cause : String) :
    readStream ⟨bytes, some cause⟩ = .error (.csv (.unavailable cause)) ∨
      ∃ failure, readStream ⟨bytes, some cause⟩ = .error failure ∧
        ∀ rest, read (bytes ++ rest) = .error failure := by
  obtain ⟨header, rows, ended⟩ := List.exists_cons_of_ne_nil h
  rw [readStream_of_ended ended]
  cases added : rows.foldlM (readRecord header) .empty with
  | ok t => exact .inl rfl
  | error failure => exact .inr ⟨failure, rfl, read_of_ended_error ended added⟩

theorem loaded_iff (opened : Except String Csv.Stream) (t : Table Float) :
    load opened = .ok t ↔ Loaded opened t := by
  constructor
  · intro h
    obtain cause | ⟨bytes, _ | cause⟩ := opened
    · cases h
    · exact .whole rfl h
    · by_cases headless : Csv.ended bytes = []
      · have empty : readStream ⟨bytes, some cause⟩ = .ok .empty := by
          simp only [readStream, headless]
        exact .headless rfl headless (Except.ok.inj (h.symm.trans empty))
      · rw [load] at h
        rcases readStream_of_header headless cause with fails | ⟨_, fails, -⟩
        · rw [fails] at h
          cases h
        · rw [fails] at h
          cases h
  · intro h
    cases h with
    | whole opened read => rw [opened]; exact read
    | headless opened headless empty => rw [opened, empty, load]; simp only [readStream, headless]

end TableFile

/-! ## Runs -/

namespace CommandLine

open TableFile (Loaded)

theorem load_of_solvedFrom {o : Options} {path : String} (given : o.bodies = some path)
    {opened : String → Except String Csv.Stream} {t : Table Float} {s : Solution Float}
    (solved : o.solvedFrom opened = .ok (t, s)) : TableFile.load (opened path) = .ok t := by
  simp only [Options.solvedFrom, given] at solved
  obtain ⟨t', loaded, solved⟩ := (bind_eq_ok_iff ..).1 solved
  obtain ⟨s', -, same⟩ := (bind_eq_ok_iff ..).1 solved
  cases same
  exact loaded

/-- A path on a disk from which a table is loaded leads to a file or to a directory. -/
theorem loaded_entry {entry : Entry} {t : Table Float} (h : Loaded entry.opened t) :
    (∃ bytes, entry = .file bytes ∧ TableFile.read bytes = .ok t) ∨
      entry = .directory ∧ t = .empty := by
  cases entry with
  | absent cause => cases h <;> contradiction
  | directory =>
    cases h with
    | whole opened => cases opened
    | headless _ _ empty => exact .inr ⟨rfl, empty⟩
  | file bytes =>
    cases h with
    | whole opened read =>
      cases opened
      exact .inl ⟨bytes, rfl, read⟩
    | headless opened => cases opened

/-- Wherever opening paths leads, a table is loaded from one exactly when it is
the table of a file that can be read as a whole, or the empty table and reading
fails before the header of the file ends. Where the file cannot be opened, and
where reading fails later, the failure says so, unless a row before it is
refused as it is in every file that goes on from there. So the program solves a
system only with a table that was loaded in one of these two ways, and a run on
a disk that ends well has loaded it from a whole file or from a directory. -/
theorem loaded_whole_or_headless (opened : String → Except String Csv.Stream) (path : String) :
    (∀ t, TableFile.load (opened path) = .ok t ↔ Loaded (opened path) t) ∧
    (∀ cause, opened path = .error cause →
      TableFile.load (opened path) = .error (.file cause)) ∧
    (∀ bytes cause, opened path = .ok ⟨bytes, some cause⟩ → Csv.ended bytes ≠ [] →
      TableFile.load (opened path) = .error (.csv (.unavailable cause)) ∨
        ∃ failure, TableFile.load (opened path) = .error failure ∧
          ∀ rest, TableFile.read (bytes ++ rest) = .error failure) ∧
    ∀ o : Options, o.bodies = some path →
      (∀ t s, o.solvedFrom opened = .ok (t, s) → Loaded (opened path) t) ∧
        ∀ arguments disk, Request.ofArguments arguments = .solve o →
          (run arguments disk).exit = 0 → ∃ t s, o.solved disk.lookup = .ok (t, s) ∧
            ((∃ bytes, disk.lookup path = .file bytes ∧ TableFile.read bytes = .ok t) ∨
              disk.lookup path = .directory ∧ t = .empty) := by
  refine ⟨TableFile.loaded_iff _, fun cause closed => ?_, fun bytes cause broken header => ?_,
    fun o given => ⟨fun t s solved => ?_, fun arguments disk asked done => ?_⟩⟩
  · rw [closed, TableFile.load]
  · rw [broken]
    exact TableFile.readStream_of_header header cause
  · exact (TableFile.loaded_iff ..).1 (load_of_solvedFrom given solved)
  · obtain ⟨t, s, solved⟩ := exists_solved asked done
    have loaded := load_of_solvedFrom given (show o.solvedFrom _ = _ from solved)
    exact ⟨t, s, solved, loaded_entry ((TableFile.loaded_iff ..).1 loaded)⟩

/-- Reading fails behind the header of a file. A rock is loaded from a whole one. -/
theorem loaded_rockDisk :
    let bytes := Utf8.encode "id\n".toList
    (Csv.ended bytes ≠ [] ∧
      TableFile.load (.ok ⟨bytes, some "gone"⟩) = .error (.csv (.unavailable "gone"))) ∧
      (run ["--bodies=rock.csv"] rockDisk).exit = 0 ∧
        ∃ bytes t, rockDisk.lookup "rock.csv" = .file bytes ∧ TableFile.read bytes = .ok t := by
  intro bytes
  have header : Csv.ended bytes ≠ [] := by decide +kernel
  have whole : TableFile.read (bytes ++ []) = .ok .empty := by rfl
  have asked : Request.ofArguments ["--bodies=rock.csv"] = .solve { bodies := some "rock.csv" } := by
    rfl
  have done : (run ["--bodies=rock.csv"] rockDisk).exit = 0 := by decide +kernel
  obtain ⟨-, -, broken, used⟩ :=
    loaded_whole_or_headless (fun _ => .ok ⟨bytes, some "gone"⟩) "rock.csv"
  refine ⟨⟨header, ?_⟩, done, ?_⟩
  · refine (broken bytes "gone" rfl header).resolve_right ?_
    rintro ⟨failure, -, refused⟩
    exact absurd (whole.symm.trans (refused [])) nofun
  · obtain ⟨t, s, -, ⟨bytes, found, read⟩ | ⟨found, -⟩⟩ := (used _ rfl).2 _ _ asked done
    · exact ⟨bytes, t, found, read⟩
    · exact absurd found (by decide +kernel)

/-- Nothing can be read of a directory, and yet a run that takes its table from
one ends well, and reports a system without bodies. -/
theorem run_directory :
    let disk : Disk := { directories := [["tables"]], files := [] }
    let done := run ["--bodies", "tables"] disk
    (disk.lookup "tables" = .directory ∧
        Entry.directory.opened = .ok ⟨[], some "Is a directory (os error 21)"⟩) ∧
      Entry.directory.table = .ok .empty ∧ done.exit = 0 ∧
      done.stdout = "Total momentum: [0, 0, 0]\nSun velocity for zero momentum: [-0, -0, -0]\n" := by
  intro disk done
  refine ⟨⟨by decide, rfl⟩, rfl, ?_, ?_⟩
  · decide +kernel
  · decide +kernel

end CommandLine

end Periapsis
