import Periapsis.Proofs.Body
import Periapsis.Proofs.Reachable
import Periapsis.Proofs.TableFile.Sheet

/-!
# Written tables, read again

What is written for a table is one of the files of its entries
(`writtenSheet_shows`), so it is read as the table of these entries
(`read_write`). But it is written with the blanks around the ids and read
without them: the same table comes back exactly when there are none
(`read_write_eq_ok_iff`).

A number is written with its shortest digits. That these lead back to it is
asked of the numbers of the table only (`Legible`), which are finite
(`legible_of_finite`).
-/

namespace Periapsis

theorem Column.mem_all (column : Column) : column ∈ Column.all := by
  cases column <;> decide

namespace TableFile

/-- The numbers of a table are read back from what is written for them. -/
def Legible (t : Table Float) : Prop :=
  ∀ entry ∈ t.entries, ∀ check ∈ entry.2.checks,
    Decimal.readFloat? (numbers.chars check.2.1) = some check.2.1

instance (t : Table Float) : Decidable (Legible t) :=
  inferInstanceAs (Decidable (∀ entry ∈ t.entries, ∀ check ∈ entry.2.checks, _))

/-- The numbers of a table that can be reached are finite, so it is enough that
all finite numbers are read back. -/
theorem legible_of_finite
    (back : ∀ x : Float, x.isFinite = true → Decimal.readFloat? (numbers.chars x) = some x)
    {t : Table Float} (h : Reachable t) : Legible t :=
  fun entry hentry check hcheck =>
    back _ (Body.isFinite_of_offence? (h.sound.physical entry hentry) check hcheck)

theorem writtenAs_writeOptional {value : Option Float}
    (legible : ∀ x ∈ value, Decimal.readFloat? (numbers.chars x) = some x) :
    (optionalCell value).WrittenAs (writeOptional value) := by
  cases value with
  | none => rfl
  | some x => exact legible x rfl

/-- What is written under a column is a text of what a row says there. -/
theorem writtenAs_cell {id : String} {b : Body Float}
    (legible : ∀ check ∈ b.checks, Decimal.readFloat? (numbers.chars check.2.1) = some check.2.1)
    (column : Column) : (cellOf id b column).WrittenAs (cell id b column) := by
  simp only [Body.checks, List.forall_mem_append, List.forall_mem_map] at legible
  obtain ⟨⟨fields, radius⟩, color⟩ := legible
  simp only [List.forall_mem_cons] at fields
  obtain ⟨mass, periapsis, speed, argument, inclination, ascendingNode, -⟩ := fields
  have component {part : Color Float → Float} (mem : ∀ c : Color Float, part c ∈ c.components) :
      ∀ x ∈ b.color.map part, Decimal.readFloat? (numbers.chars x) = some x := by
    intro x hx
    obtain ⟨c, hc, rfl⟩ := Option.map_eq_some_iff.1 hx
    exact color _ (List.mem_flatMap.2 ⟨c, Option.mem_toList.2 hc, mem c⟩)
  cases column with
  | id => rfl
  | mass => exact mass
  | periapsis => exact periapsis
  | speed => exact speed
  | argument => exact argument
  | inclination => exact inclination
  | ascendingNode => exact ascendingNode
  | radius => exact writtenAs_writeOptional fun x hx => radius x (Option.mem_toList.2 hx)
  | red => exact writtenAs_writeOptional (component fun c => by simp [Color.components])
  | green => exact writtenAs_writeOptional (component fun c => by simp [Color.components])
  | blue => exact writtenAs_writeOptional (component fun c => by simp [Color.components])

/-- The sheet that is written: all columns in their order. -/
def writtenSheet (entries : List (String × Body Float)) : Sheet where
  columns := Column.all.map some
  header := header
  rows := entries.map row

theorem writtenSheet_shows {t : Table Float} (legible : Legible t) :
    (writtenSheet t.entries).Shows t.entries where
  titled := by
    rw [writtenSheet, header, List.forall₂_map_left_iff, List.forall₂_map_right_iff]
    exact List.forall₂_same.2 fun column _ => .known column (.refl _)
  distinct := by
    show ((Column.all.map some).reduceOption).Nodup
    decide
  rows := by
    rw [writtenSheet, List.forall₂_map_right_iff]
    refine List.forall₂_same.2 fun entry hentry => ⟨?_, fun column absent => ?_⟩
    · rw [row, List.forall₂_map_left_iff, List.forall₂_map_right_iff]
      exact List.forall₂_same.2 fun column _ =>
        .known column (writtenAs_cell (legible entry hentry) column) (.refl _)
    · exact absurd (List.mem_map_of_mem (Column.mem_all column)) absent

/-- A written header does not start with a byte order mark. -/
theorem withoutMark_write_header (rows : List (List (List Char))) :
    Csv.withoutMark (Csv.write (header :: rows)) = Csv.write (header :: rows) := by
  obtain ⟨rest, written⟩ : ∃ rest, Csv.writeRecord header = 'i' :: rest := ⟨_, rfl⟩
  rw [Csv.write, List.flatMap_cons, written]
  rfl

/-- A written table is read as the table of its entries, without blanks at the
ends of their ids. -/
theorem read_write {t : Table Float} (legible : Legible t) :
    read (Utf8.encode (write t).toList) = Table.ofEntries (trimIds t.entries) := by
  obtain ⟨entries⟩ := t
  cases entries with
  | nil => rfl
  | cons entry entries =>
    apply read_encode (writtenSheet_shows legible)
    rw [write, String.toList_ofList]
    show Csv.Lines (header :: (entry :: entries).map row)
      (Csv.withoutMark (Csv.write (header :: (entry :: entries).map row)))
    rw [withoutMark_write_header]
    apply Csv.lines_write
    refine List.forall_mem_cons.2 ⟨by decide, List.forall_mem_map.2 fun entry _ => ?_⟩
    rw [row, List.length_map]
    decide

/-- A table that can be reached is read again as it was written exactly when no
id has blanks at its ends. -/
theorem read_write_eq_ok_iff {t : Table Float} (h : Reachable t) (legible : Legible t) :
    read (Utf8.encode (write t).toList) = .ok t ↔ ∀ id ∈ t.ids, Text.Trimmed id.toList := by
  rw [read_write legible, Table.ofEntries_eq_ok_iff, Table.ids, List.forall_mem_map,
    ← trimIds_eq_self_iff]
  constructor
  · rintro ⟨-, same⟩
    exact (congrArg Table.entries same).symm
  · intro same
    rw [same]
    exact ⟨h.sound, rfl⟩

theorem legible_solarSystem : Legible solarSystem := by
  decide +kernel

theorem trimmed_solarSystem : ∀ id ∈ (solarSystem : Table Float).ids, Text.Trimmed id.toList := by
  intro id mem
  rw [← Text.trim_eq_self_iff]
  revert id
  decide +kernel

theorem read_write_solarSystem :
    read (Utf8.encode (write solarSystem).toList) = .ok solarSystem :=
  (read_write_eq_ok_iff reachable_solarSystem legible_solarSystem).2 trimmed_solarSystem

/-- A body may have the id of the Sun behind a blank, but not in a file. -/
theorem read_write_blank_sun :
    let t : Table Float := ⟨[(" sun", ceres)]⟩
    Table.ofEntries t.entries = .ok t ∧ Legible t ∧
      read (Utf8.encode (write t).toList) = .error (.reservedId "sun") := by
  have legible : Legible ⟨[(" sun", ceres)]⟩ := by decide +kernel
  refine ⟨(Table.ofEntries_eq_ok_iff ..).2 ⟨by decide +kernel, rfl⟩, legible, ?_⟩
  rw [read_write legible]
  have trimmed : trimIds [(" sun", ceres)] = [("sun", ceres)] := by decide +kernel
  rw [trimmed]
  rfl

end TableFile

end Periapsis
