import Periapsis.Proofs.TableFile.Columns
import Periapsis.Proofs.TableFile.RoundTrip

/-!
# Tables that were read

The id of a row is one of the texts of its record, which are taken without the
blanks at their ends (`trimmed_of_entryOf`). So no table that was read has an id
with blanks at its ends (`trimmed_of_read`), and when it is written the same
table is read again (`read_write_of_trimmed`).
-/

namespace Periapsis.TableFile

/-! ## Ids that were read -/

theorem trimmed_of_textsOf {start : Csv.Position} {fields : List (List UInt8)}
    {texts : List (List Char)} (h : textsOf start fields = .ok texts) :
    ∀ text ∈ texts, Text.Trimmed text := by
  rw [textsOf, mapM_eq_ok_iff] at h
  intro text mem
  obtain ⟨⟨bytes, index⟩, -, read⟩ := exists_of_mem_of_forall₂ h mem
  dsimp only at read
  split at read
  · cases read
    exact Text.trimmed_trim _
  · cases read

/-- The id of an entry is what stands in its record under the ids. -/
theorem trimmed_of_entryOf {header record : Csv.Record} {entry : String × Body Float}
    (h : entryOf header record = .ok entry) : Text.Trimmed entry.1.toList := by
  obtain ⟨-, texts, row, found, made, complete⟩ := exists_row_of_entryOf h
  obtain ⟨cells, gathered, describe⟩ := describe_of_entry made complete
  have id : cells.lookup .id = some (.text entry.1) := describe.lookup_eq Cell.noConfusion
  obtain ⟨⟨index, _, text⟩, mem, rfl, read⟩ := gathered.exists_field id
  have written : entry.1.toList = text := (writtenAs_of_readCell read).symm
  rw [written]
  exact trimmed_of_textsOf found text (List.mem_of_getElem? (mem_assign_iff.1 mem).1)

/-- No id of a table that was read has blanks at its ends. -/
theorem trimmed_of_read {bytes : List UInt8} {t : Table Float} (h : read bytes = .ok t) :
    ∀ id ∈ t.ids, Text.Trimmed id.toList := by
  obtain rfl | ⟨header, records, -, -, looked⟩ := empty_or_rows_of_read h
  · exact nofun
  · intro id mem
    obtain ⟨entry, among, rfl⟩ := List.mem_map.1 mem
    obtain ⟨record, -, read⟩ := exists_of_mem_of_forall₂ looked among
    exact trimmed_of_entryOf read

/-! ## Written again -/

theorem read_write_of_trimmed {t : Table Float} (h : t.Sound)
    (trimmed : ∀ id ∈ t.ids, Text.Trimmed id.toList) (legible : Legible t) :
    read (Utf8.encode (write t).toList) = .ok t := by
  rw [Table.ids, List.forall_mem_map] at trimmed
  rw [read_write legible, (trimIds_eq_self_iff t.entries).2 trimmed, Table.ofEntries_eq_ok_iff]
  exact ⟨h, rfl⟩

end Periapsis.TableFile
