import Periapsis.Proofs.Results
import Periapsis.Proofs.Table
import Periapsis.TableFile

/-!
# The rows of a table file

A row is read in two steps: first as an entry, which takes the row and the
header only (`entryOf`), then into the table. So a file is read into the table
that its entries make (`readRecords_eq_insertAll`, `read_eq_ok_iff`), and no
other way leads to a table with bodies (`empty_or_rows_of_read`).
-/

namespace Periapsis.TableFile

/-- The entry that a record stands for under a header. -/
def entryOf (header record : Csv.Record) : Except (Failure Float) (String × Body Float) :=
  match readRow header record with
  | .error fault => .error (.csv fault)
  | .ok row => row.entry

/-- What a record with an entry has gone through: it is as long as the header,
all of its fields are texts, and these are a row. -/
theorem exists_row_of_entryOf {header record : Csv.Record} {entry : String × Body Float}
    (h : entryOf header record = .ok entry) :
    record.fields.length = header.fields.length ∧ ∃ texts row,
      textsOf record.start record.fields = .ok texts ∧
      Row.ofTexts (.ofFields header.fields) texts = .ok row ∧ row.entry = .ok entry := by
  unfold entryOf at h
  split at h
  · cases h
  rename_i row read
  unfold readRow at read
  split at read
  · cases read
  rename_i length
  obtain ⟨texts, found, read⟩ := (bind_eq_ok_iff ..).1 read
  refine ⟨not_not.1 length, texts, row, found, ?_, h⟩
  split at read <;> cases read
  assumption

theorem readRecord_eq (header : Csv.Record) (t : Table Float) (record : Csv.Record) :
    readRecord header t record =
      entryOf header record >>= fun entry => t.insert entry.1 entry.2 := by
  unfold readRecord entryOf
  cases readRow header record <;> rfl

/-- Records that stand for entries are read as these are inserted. -/
theorem readRecords_eq_insertAll {header : Csv.Record} {records : List Csv.Record}
    {entries : List (String × Body Float)} (t : Table Float)
    (h : List.Forall₂ (fun record entry => entryOf header record = .ok entry) records entries) :
    records.foldlM (readRecord header) t = t.insertAll entries := by
  simp only [funext₂ (readRecord_eq header)]
  exact foldlM_eq_of_forall₂ (fun t entry => t.insert entry.1 entry.2) t h

theorem read_eq_of_records {bytes : List UInt8} {header : Csv.Record} {records : List Csv.Record}
    (h : Csv.records bytes = header :: records) :
    read bytes = records.foldlM (readRecord header) .empty := by
  unfold read
  rw [h]

/-- A file with a header is read exactly when each of its rows is an entry, and
these make a sound table. -/
theorem read_eq_ok_iff {bytes : List UInt8} {header : Csv.Record} {records : List Csv.Record}
    (h : Csv.records bytes = header :: records) (t : Table Float) :
    read bytes = .ok t ↔
      t.Sound ∧
        List.Forall₂ (fun record entry => entryOf header record = .ok entry) records t.entries := by
  rw [read_eq_of_records h]
  simp only [funext₂ (readRecord_eq header)]
  refine (foldlM_eq_ok_iff _ _ records .empty t).trans ⟨?_, ?_⟩
  · rintro ⟨entries, looked, made⟩
    obtain ⟨sound, rfl⟩ := (Table.ofEntries_eq_ok_iff ..).1 made
    exact ⟨sound, looked⟩
  · rintro ⟨sound, looked⟩
    exact ⟨t.entries, looked, (Table.ofEntries_eq_ok_iff ..).2 ⟨sound, rfl⟩⟩

/-- A table that is read is empty, or a header and its rows make it. -/
theorem empty_or_rows_of_read {bytes : List UInt8} {t : Table Float} (h : read bytes = .ok t) :
    t = .empty ∨ ∃ header records, Csv.records bytes = header :: records ∧ t.Sound ∧
      List.Forall₂ (fun record entry => entryOf header record = .ok entry) records t.entries := by
  cases found : Csv.records bytes with
  | nil =>
    rw [read, found] at h
    exact .inl (Except.ok.inj h).symm
  | cons header records => exact .inr ⟨header, records, rfl, (read_eq_ok_iff found t).1 h⟩

theorem sound_of_read {bytes : List UInt8} {t : Table Float} (h : read bytes = .ok t) :
    t.Sound := by
  obtain rfl | ⟨-, -, -, sound, -⟩ := empty_or_rows_of_read h
  · exact Table.sound_empty
  · exact sound

end Periapsis.TableFile
