import Periapsis.Disk

/-!
# Files on a disk

What is written is found again where it was written (`lookup_of_write`). Writing
makes and removes no directories, so every path leads where it led before
(`resolve_of_write`), and what could be written before can be written after
(`writable_of_write`). So a list of files can be written exactly when each of
them can (`writeFiles_eq_true_iff`).

Files are written up to the first that cannot be (`written_writeFiles`). What
that leaves behind is said without the order of the steps (`Written`): the last
text at every place, and everything else as it was.
-/

namespace Periapsis

theorem Entry.isReplaceable_iff (entry : Entry) :
    entry.isReplaceable = true ↔ entry = .missing ∨ ∃ bytes, entry = .file bytes := by
  cases entry with
  | absent cause => simp [isReplaceable]
  | directory => simp [isReplaceable, missing]
  | file bytes => simp [isReplaceable]

namespace Disk

variable {disk disk' : Disk} {path text : String}

/-- A file stands at a place, or nothing, and it can be written there. -/
def Free (disk : Disk) (place : Path) : Prop :=
  (disk.entry place = .missing ∨ ∃ bytes, disk.entry place = .file bytes) ∧ place ∉ disk.guarded

theorem write_eq_some_iff :
    disk.write path text = some disk' ↔
      ∃ place, disk.resolve path = some place ∧ disk.Free place ∧
        disk' = { disk with
          files := (place, Utf8.encode text.toList) ::
            disk.files.filter fun file => file.1 ≠ place } := by
  unfold write Free
  simp only [← Entry.isReplaceable_iff]
  cases disk.resolve path with
  | none => simp
  | some place =>
    simp only [Option.bind_eq_bind, Option.bind_some, Option.some.injEq, exists_eq_left',
      Option.ite_none_right_eq_some]
    rw [eq_comm (b := disk')]

/-! ## Places -/

theorem lookup_filter_ne {place other : Path} (h : other ≠ place) (files : List (Path × List UInt8)) :
    (files.filter fun file => file.1 ≠ place).lookup other = files.lookup other := by
  induction files with
  | nil => rfl
  | cons file files ih =>
    by_cases same : file.1 = place
    · rw [List.filter_cons_of_neg (by simpa using same), List.lookup_cons,
        beq_eq_false_iff_ne.2 (same ▸ h), ih]
    · rw [List.filter_cons_of_pos (by simpa using same), List.lookup_cons, List.lookup_cons, ih]

theorem entry_of_write {place : Path} (bytes : List UInt8) (other : Path) :
    ({ disk with files := (place, bytes) :: disk.files.filter fun file => file.1 ≠ place } :
      Disk).entry other = if other = place then .file bytes else disk.entry other := by
  unfold entry
  rw [List.lookup_cons]
  by_cases same : other = place
  · rw [if_pos same, beq_iff_eq.2 same]
  · rw [if_neg same, beq_eq_false_iff_ne.2 same, lookup_filter_ne same]

theorem Free.ne_directory {place : Path} (h : disk.Free place) : disk.entry place ≠ .directory := by
  rcases h with ⟨nothing | ⟨bytes, file⟩, -⟩
  · exact fun directory => Entry.noConfusion (nothing.symm.trans directory)
  · exact fun directory => Entry.noConfusion (file.symm.trans directory)

/-- A file takes the place of no directory. -/
theorem entry_eq_directory_of_write (h : disk.write path text = some disk') (other : Path) :
    disk'.entry other = .directory ↔ disk.entry other = .directory := by
  obtain ⟨place, -, free, rfl⟩ := write_eq_some_iff.1 h
  rw [entry_of_write]
  split
  · rename_i same
    rw [same]
    exact ⟨nofun, fun directory => absurd directory free.ne_directory⟩
  · exact Iff.rfl

/-- What is written can be written again, and nothing else is more or less free. -/
theorem free_of_write (h : disk.write path text = some disk') (other : Path) :
    disk'.Free other ↔ disk.Free other := by
  obtain ⟨place, -, free, rfl⟩ := write_eq_some_iff.1 h
  unfold Free
  rw [entry_of_write]
  split
  · rename_i same
    rw [same]
    exact iff_of_true ⟨.inr ⟨_, rfl⟩, free.2⟩ free
  · exact Iff.rfl

/-! ## Paths -/

theorem walk_of_write (h : disk.write path text = some disk') (here : Path) (names : List String) :
    disk'.walk here names = disk.walk here names := by
  induction names generalizing here with
  | nil => rfl
  | cons name names ih =>
    rw [walk, walk]
    simp only [ne_eq, entry_eq_directory_of_write h, ih]

theorem resolve_of_write (h : disk.write path text = some disk') (other : String) :
    disk'.resolve other = disk.resolve other := by
  unfold resolve
  simp only [walk_of_write h]

/-- What was written is found where it was written. -/
theorem lookup_of_write (h : disk.write path text = some disk') :
    disk'.lookup path = .file (Utf8.encode text.toList) := by
  have leads := resolve_of_write h path
  obtain ⟨place, resolved, -, rfl⟩ := write_eq_some_iff.1 h
  unfold lookup
  rw [leads, resolved]
  show entry _ place = _
  rw [entry_of_write, if_pos rfl]

/-! ## Several files -/

/-- A path leads to where a file can be made, or written anew. -/
def Writable (disk : Disk) (path : String) : Prop :=
  ∃ place, disk.resolve path = some place ∧ disk.Free place

theorem exists_write_iff : (∃ disk', disk.write path text = some disk') ↔ disk.Writable path := by
  simp only [write_eq_some_iff, Writable]
  exact ⟨fun ⟨_, place, resolved, free, _⟩ => ⟨place, resolved, free⟩,
    fun ⟨place, resolved, free⟩ => ⟨_, place, resolved, free, rfl⟩⟩

theorem write_eq_none_iff : disk.write path text = none ↔ ¬ disk.Writable path := by
  rw [← Option.not_isSome_iff_eq_none, Option.isSome_iff_exists, exists_write_iff]

example :
    let disk : Disk := {
      directories := [], files := [(["read.csv"], [])]
      barred := [(["shut.csv"], "Permission denied (os error 13)")], guarded := [["read.csv"]] }
    (disk.lookup "read.csv" = .file [] ∧ disk.write "read.csv" "" = none) ∧
      disk.lookup "shut.csv" = .absent "Permission denied (os error 13)" ∧
      disk.write "shut.csv" "" = none := by
  decide +kernel

theorem writable_of_write (h : disk.write path text = some disk') (other : String) :
    disk'.Writable other ↔ disk.Writable other := by
  simp only [Writable, resolve_of_write h, free_of_write h]

/-- Writes texts to paths up to the first that cannot be written, and tells
whether all of them were. -/
def writeFiles (disk : Disk) : List (String × String) → Disk × Bool
  | [] => (disk, true)
  | (path, text) :: files =>
    match disk.write path text with
    | some disk => disk.writeFiles files
    | none => (disk, false)

theorem writeFiles_cons_of_write (h : disk.write path text = some disk')
    (files : List (String × String)) :
    disk.writeFiles ((path, text) :: files) = disk'.writeFiles files := by
  rw [writeFiles, h]

theorem writable_of_writeFiles (files : List (String × String)) (other : String) :
    (disk.writeFiles files).1.Writable other ↔ disk.Writable other := by
  induction files generalizing disk with
  | nil => rfl
  | cons file files ih =>
    obtain ⟨path, text⟩ := file
    cases h : disk.write path text with
    | some disk' => rw [writeFiles_cons_of_write h, ih, writable_of_write h]
    | none => rw [writeFiles, h]

/-! ## What was written -/

/-- A disk after some files were written: the last text for a place stands
there, all other places hold what they held, and paths lead where they led. -/
structure Written (disk : Disk) (files : List (String × String)) (after : Disk) : Prop where
  resolve (path : String) : after.resolve path = disk.resolve path
  last {before later : List (String × String)} {path text : String} :
    files = before ++ (path, text) :: later →
    (∀ file ∈ later, disk.resolve file.1 ≠ disk.resolve path) →
    after.lookup path = .file (Utf8.encode text.toList)
  other (place : Path) : (∀ file ∈ files, disk.resolve file.1 ≠ some place) →
    after.entry place = disk.entry place

theorem Written.nil (disk : Disk) : disk.Written [] disk where
  resolve _ := rfl
  last h := absurd h (by simp)
  other _ _ := rfl

/-- Where no path of the files leads, nothing has changed. -/
theorem Written.lookup_eq {files : List (String × String)} (h : disk.Written files disk')
    {path : String} (apart : ∀ file ∈ files, disk.resolve file.1 ≠ disk.resolve path) :
    disk'.lookup path = disk.lookup path := by
  unfold lookup
  rw [h.resolve]
  cases leads : disk.resolve path with
  | none => rfl
  | some place => exact h.other place fun file mem => leads ▸ apart file mem

/-- A file that is written before others stands unless one of them takes its place. -/
theorem Written.cons {first after : Disk} (h : disk.write path text = some first)
    {files : List (String × String)} (rest : first.Written files after) :
    disk.Written ((path, text) :: files) after := by
  have leads := resolve_of_write h
  refine ⟨fun other => (rest.resolve other).trans (leads other), ?_, fun place apart => ?_⟩
  · intro before later p t split apart
    rcases List.cons_eq_append_iff.1 split with ⟨rfl, same⟩ | ⟨before, rfl, same⟩
    · obtain ⟨⟨rfl, rfl⟩, rfl⟩ : (p = path ∧ t = text) ∧ later = files := by simpa using same
      rw [rest.lookup_eq (by simpa only [leads] using apart)]
      exact lookup_of_write h
    · exact rest.last same (by simpa only [leads] using apart)
  · rw [List.forall_mem_cons] at apart
    rw [rest.other place (by simpa only [leads] using apart.2)]
    obtain ⟨taken, resolved, -, rfl⟩ := write_eq_some_iff.1 h
    have different : place ≠ taken := fun same => apart.1 (same ▸ resolved)
    rw [entry_of_write, if_neg different]

/-- Files are written up to the first that cannot be. -/
theorem written_writeFiles (files : List (String × String)) (disk : Disk) :
    ((disk.writeFiles files).2 = true ∧ (∀ file ∈ files, disk.Writable file.1) ∧
        disk.Written files (disk.writeFiles files).1) ∨
      (disk.writeFiles files).2 = false ∧ ∃ before path text later,
        files = before ++ (path, text) :: later ∧ (∀ file ∈ before, disk.Writable file.1) ∧
        ¬ disk.Writable path ∧ disk.Written before (disk.writeFiles files).1 := by
  induction files generalizing disk with
  | nil => exact .inl ⟨rfl, by simp, .nil disk⟩
  | cons file files ih =>
    obtain ⟨path, text⟩ := file
    cases h : disk.write path text with
    | none =>
      rw [writeFiles, h]
      exact .inr ⟨rfl, [], path, text, files, rfl, by simp, write_eq_none_iff.1 h, .nil disk⟩
    | some first =>
      have free {files : List (String × String)} (rest : ∀ file ∈ files, first.Writable file.1) :
          ∀ file ∈ (path, text) :: files, disk.Writable file.1 :=
        List.forall_mem_cons.2 ⟨exists_write_iff.1 ⟨first, h⟩, fun file mem =>
          (writable_of_write h _).1 (rest file mem)⟩
      rw [writeFiles_cons_of_write h]
      rcases ih first with ⟨all, rest, written⟩ |
        ⟨stopped, before, p, t, later, rfl, rest, taken, written⟩
      · exact .inl ⟨all, free rest, .cons h written⟩
      · rw [writable_of_write h] at taken
        exact .inr ⟨stopped, (path, text) :: before, p, t, later, rfl, free rest, taken,
          .cons h written⟩

/-- All of some files are written exactly when each of them can be. -/
theorem writeFiles_eq_true_iff (files : List (String × String)) :
    (disk.writeFiles files).2 = true ↔ ∀ file ∈ files, disk.Writable file.1 := by
  rcases written_writeFiles files disk with ⟨all, free, -⟩ |
    ⟨stopped, before, path, text, later, rfl, -, taken, -⟩
  · exact iff_of_true all free
  · refine iff_of_false (by simp [stopped]) fun free => taken (free (path, text) ?_)
    exact List.mem_append_right before List.mem_cons_self

/-- The last of some files is found where it was written. -/
theorem lookup_of_writeFiles {files : List (String × String)}
    (h : (disk.writeFiles (files ++ [(path, text)])).2 = true) :
    (disk.writeFiles (files ++ [(path, text)])).1.lookup path = .file (Utf8.encode text.toList) := by
  rcases written_writeFiles (files ++ [(path, text)]) disk with ⟨-, -, written⟩ | ⟨stopped, -⟩
  · exact written.last rfl (by simp)
  · simp [stopped] at h

/-- What cannot be written is left alone. -/
theorem Written.lookup_of_not_writable {files : List (String × String)}
    (h : disk.Written files disk') (free : ∀ file ∈ files, disk.Writable file.1)
    (taken : ¬ disk.Writable path) : disk'.lookup path = disk.lookup path := by
  refine h.lookup_eq fun file mem same => taken ?_
  obtain ⟨place, resolved, free⟩ := free file mem
  exact ⟨place, same ▸ resolved, free⟩

end Disk

end Periapsis
