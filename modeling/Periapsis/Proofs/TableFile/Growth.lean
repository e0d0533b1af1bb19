import Periapsis.Proofs.Csv.Records
import Periapsis.Proofs.TableFile.Columns

/-!
# Files that go on

What a file says does not depend on what comes behind it. Behind a line that is
over, a refusal stays (`read_append_of_error`) and entries stay where they are
(`prefix_of_read_append`). A table has the entries of the pieces of its file
behind the header, each in its place, and empty pieces have none
(`rowByRow_of_read`).
-/

namespace Periapsis.TableFile

/-- Rows that are refused before a failing read are so in every file that goes on from there. -/
theorem read_of_ended_error {bytes : List UInt8} {header : Csv.Record} {rows : List Csv.Record}
    {failure : Failure Float} (h : Csv.ended bytes = header :: rows)
    (fails : rows.foldlM (readRecord header) .empty = .error failure) (rest : List UInt8) :
    read (bytes ++ rest) = .error failure := by
  obtain ⟨more, records⟩ := Csv.ended_prefix bytes rest
  rw [h, List.cons_append] at records
  rw [read_eq_of_records records.symm, List.foldlM_append, fails]
  rfl

/-! ## Further lines -/

theorem read_append_of_error {bytes : List UInt8} (h : Csv.EndsLine bytes)
    {failure : Failure Float} (fails : read bytes = .error failure) (rest : List UInt8) :
    read (bytes ++ rest) = .error failure := by
  cases found : Csv.records bytes with
  | nil =>
    rw [read, found] at fails
    cases fails
  | cons header rows =>
    rw [read_eq_of_records found] at fails
    exact read_of_ended_error (Csv.records_eq_ended h ▸ found) fails rest

theorem prefix_of_read_append {bytes rest : List UInt8} (h : Csv.EndsLine bytes)
    {t t' : Table Float} (first : read bytes = .ok t) (whole : read (bytes ++ rest) = .ok t') :
    t.entries <+: t'.entries := by
  cases found : Csv.records bytes with
  | nil =>
    rw [read, found] at first
    obtain rfl := Except.ok.inj first
    exact List.nil_prefix
  | cons header rows =>
    obtain ⟨more, records⟩ := Csv.ended_prefix bytes rest
    rw [← Csv.records_eq_ended h, found, List.cons_append] at records
    obtain ⟨-, looked⟩ := (read_eq_ok_iff found t).1 first
    obtain ⟨-, looked'⟩ := (read_eq_ok_iff records.symm t').1 whole
    rw [← mapM_eq_ok_iff] at looked looked'
    rw [List.mapM_append, bind_eq_ok_iff] at looked'
    obtain ⟨entries, before, looked'⟩ := looked'
    obtain rfl := Except.ok.inj (looked.symm.trans before)
    obtain ⟨further, -, same⟩ := (bind_eq_ok_iff ..).1 looked'
    exact ⟨further, Except.ok.inj same⟩

/-! ## Rows and entries -/

/-- The values of an entry stand in a piece of a file, under the header that
another piece is. -/
def ReadFrom (header row : List UInt8) (entry : String × Body Float) : Prop :=
  ReadAt (Stands (Csv.recordOf header)) (Csv.recordOf row) entry

/-- The first piece is a header, and each of the others has one of the entries, in
their order. Without a header there are none. -/
inductive RowByRow : List (String × Body Float) → List (List UInt8) → Prop where
  | headless : RowByRow [] []
  | headed {entries : List (String × Body Float)} {header : List UInt8} {rows : List (List UInt8)} :
    List.Forall₂ (ReadFrom header) rows entries → RowByRow entries (header :: rows)

/-- Where a record is does not matter for what is read in it. -/
theorem ReadAt.of_fields {stands : Nat → Column → Prop} {record other : Csv.Record}
    {entry : String × Body Float} (h : ReadAt stands record entry)
    (same : record.fields = other.fields) : ReadAt stands other entry :=
  ⟨same ▸ h.cell, h.absent⟩

theorem rowByRow_of_read {bytes : List UInt8} {t : Table Float} (h : read bytes = .ok t) :
    RowByRow t.entries ((Csv.pieces bytes).filter (· ≠ [])) := by
  have fields := Csv.map_fields_records bytes
  generalize (Csv.pieces bytes).filter (· ≠ []) = pieces at fields ⊢
  cases found : Csv.records bytes with
  | nil =>
    rw [read, found] at h
    obtain rfl := Except.ok.inj h
    rw [found] at fields
    obtain rfl := List.map_eq_nil_iff.1 fields.symm
    exact .headless
  | cons header rows =>
    obtain ⟨-, looked⟩ := (read_eq_ok_iff found t).1 h
    rw [found, List.map_cons, eq_comm, List.map_eq_cons_iff] at fields
    obtain ⟨title, lines, rfl, titled, fields⟩ := fields
    have heading : Stands (Csv.recordOf title) = Stands header := by
      unfold Stands
      rw [titled]
    have under : List.Forall₂ (fun fields entry => ∀ record : Csv.Record, fields = record.fields →
        ReadAt (Stands header) record entry) (rows.map Csv.Record.fields) t.entries :=
      List.forall₂_map_left_iff.2
        (looked.imp fun _ _ read _ => (readAt_of_entryOf read).1.of_fields)
    rw [← fields, List.forall₂_map_left_iff, ← heading] at under
    exact .headed (under.imp fun row _ read => read (Csv.recordOf row) rfl)

/-- A file is read from its first byte to its last. Whatever comes behind a line
that is over, a failure before it stays the same, with all that its message says,
and the entries before it stay the first ones. And every file that is read has an
entry for each of its pieces that is not empty, in their order, but for the
first, which is the header. -/
theorem read_left_to_right :
    (∀ p q, Csv.EndsLine p →
      (∀ failure, read p = .error failure → read (p ++ q) = .error failure) ∧
      ∀ t t', read p = .ok t → read (p ++ q) = .ok t' → t.entries <+: t'.entries) ∧
    ∀ bytes t, read bytes = .ok t → RowByRow t.entries ((Csv.pieces bytes).filter (· ≠ [])) :=
  ⟨fun _ q ended => ⟨fun _ fails => read_append_of_error ended fails q,
    fun _ _ first whole => prefix_of_read_append ended first whole⟩, fun _ _ => rowByRow_of_read⟩

/-- A file with an empty line, and a line feed in the id of its only row. -/
def brokenRock : List UInt8 :=
  Utf8.encode ("id,mass,periapsis,speed,argument_of_periapsis,inclination," ++
    "longitude_of_ascending_node\r\n\n\"broken\nrock\",1,1,1,0,0,0\n").toList

/-- Its row is followed by a further one, by itself, and then by bytes that are no text. -/
theorem read_brokenRock :
    let still : Body Float := ⟨1, 1, 1, ⟨0, 0, 0⟩, none, none⟩
    let stone := Utf8.encode "stone,1,1,1,0,0,0".toList
    let twice := brokenRock ++ Utf8.encode "\"broken\nrock\",1,1,1,0,0,0\n".toList
    Csv.EndsLine brokenRock ∧ read brokenRock = .ok ⟨[("broken\nrock", still)]⟩ ∧
      (∃ t, read (brokenRock ++ stone) = .ok t ∧ [("broken\nrock", still)] <+: t.entries) ∧
      Csv.EndsLine twice ∧ read twice = .error (.duplicateBody "broken\nrock") ∧
      read (twice ++ [0xFF, 0x22]) = .error (.duplicateBody "broken\nrock") ∧
      RowByRow [("broken\nrock", still)] ((Csv.pieces brokenRock).filter (· ≠ [])) := by
  intro still stone twice
  have ended : Csv.EndsLine brokenRock := ⟨brokenRock.dropLast, by decide +kernel⟩
  have ended' : Csv.EndsLine twice := ⟨twice.dropLast, by decide +kernel⟩
  have first : read brokenRock = .ok ⟨[("broken\nrock", still)]⟩ := by decide +kernel
  have whole : read (brokenRock ++ stone) =
      .ok ⟨[("broken\nrock", still), ("stone", still)]⟩ := by decide +kernel
  have fails : read twice = .error (.duplicateBody "broken\nrock") := by decide +kernel
  obtain ⟨further, rows⟩ := read_left_to_right
  have rows := rows _ _ first
  exact ⟨ended, first, ⟨_, whole, (further _ _ ended).2 _ _ first whole⟩, ended', fails,
    (further _ _ ended').1 _ fails, rows⟩

end Periapsis.TableFile
