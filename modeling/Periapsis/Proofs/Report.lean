import Periapsis.Proofs.Csv.Lines
import Periapsis.Proofs.Solution
import Periapsis.Proofs.TableFile.Sheet
import Periapsis.Report

/-!
# State files, read again

A state file holds all of a solution, whatever the ids are: read without
trimming, it has the header and one record of eight fields for each body and for
the Sun, and the fields are the ids and the numbers that were written
(`texts_states`).

So the report can be made from the file alone: the lines of the bodies are the
fields as they stand, and the momentum is added up again from the numbers that
they read as, in the order of the records (`ofStates?_of_reachable`).

That a number is read back from what is written for it is asked of the numbers
of the solution only.
-/

namespace Periapsis

/-- The fields of a file as text, record by record, with the blanks around them. -/
def Csv.texts (bytes : List UInt8) : Except Nat (List (List (List Char))) :=
  (Csv.records bytes).mapM fun record => record.fields.mapM Utf8.decode

theorem Csv.texts_encode {rows : List (List (List Char))} {text : List Char}
    (h : Csv.Lines rows (Csv.withoutMark text)) : Csv.texts (Utf8.encode text) = .ok rows := by
  have fields := Csv.fields_records h
  have mapped : Csv.texts (Utf8.encode text) =
      ((Csv.records (Utf8.encode text)).map Csv.Record.fields).mapM fun fields =>
        fields.mapM Utf8.decode := by
    rw [List.mapM_map]
    rfl
  rw [mapped, fields, mapM_eq_ok_iff, List.forall₂_map_left_iff]
  exact List.forall₂_same.2 fun texts _ => TableFile.mapM_decode_encode texts

namespace Report

/-! ## Records of states -/

/-- What a record of a state file says. -/
structure StateRow where
  id : String
  mass : Float
  state : State Float
deriving DecidableEq, Repr

namespace StateRow

def ofBody (b : Placed Float) : StateRow :=
  ⟨b.id, b.body.mass, b.state⟩

def numbers (row : StateRow) : List Float :=
  [row.mass, row.state.position.x, row.state.position.y, row.state.position.z,
    row.state.velocity.x, row.state.velocity.y, row.state.velocity.z]

/-- The numbers of a record are read back from what is written for them. -/
def Legible (row : StateRow) : Prop :=
  ∀ x ∈ row.numbers, Decimal.readFloat? (number x) = some x

instance (row : StateRow) : Decidable row.Legible :=
  inferInstanceAs (Decidable (∀ x ∈ row.numbers, _))

/-- The row that eight fields say. -/
def ofTexts? : List (List Char) → Option StateRow
  | [id, mass, px, py, pz, vx, vy, vz] => do
    let mass ← Decimal.readFloat? mass
    let position ← [px, py, pz].mapM Decimal.readFloat?
    let velocity ← [vx, vy, vz].mapM Decimal.readFloat?
    match position, velocity with
    | [px, py, pz], [vx, vy, vz] =>
      return ⟨String.ofList id, mass, ⟨⟨px, py, pz⟩, ⟨vx, vy, vz⟩⟩⟩
    | _, _ => none
  | _ => none

/-- The record that is written for a row. -/
def texts (row : StateRow) : List (List Char) :=
  stateRecord row.id row.mass row.state

theorem length_texts (row : StateRow) : row.texts.length = 8 :=
  rfl

theorem ofTexts?_texts {row : StateRow} (h : row.Legible) : ofTexts? row.texts = some row := by
  simp only [Legible, numbers, List.forall_mem_cons] at h
  obtain ⟨mass, px, py, pz, vx, vy, vz, -⟩ := h
  simp [texts, stateRecord, ofTexts?, mass, px, py, pz, vx, vy, vz]

theorem mapM_ofTexts?_texts {rows : List StateRow} (h : ∀ row ∈ rows, row.Legible) :
    (rows.map texts).mapM ofTexts? = some rows := by
  induction rows with
  | nil => rfl
  | cons row rows ih =>
    obtain ⟨first, rest⟩ := List.forall_mem_cons.1 h
    rw [List.map_cons, List.mapM_cons, ofTexts?_texts first, ih rest]
    rfl

end StateRow

/-- The rows of a solution: its bodies in their order, and the Sun. -/
def stateRows (s : Solution Float) : List StateRow :=
  s.bodies.map StateRow.ofBody ++ [⟨sunId, s.sunMass, s.sunState⟩]

theorem stateRecords_eq (s : Solution Float) :
    stateRecords s = stateHeader :: (stateRows s).map StateRow.texts := by
  rw [stateRecords, stateRows, List.map_append, List.map_map]
  rfl

/-! ## The whole file -/

/-- The header comes first, and it does not start with a byte order mark. -/
theorem withoutMark_states (s : Solution Float) :
    Csv.withoutMark (Csv.write (stateRecords s)) = Csv.write (stateRecords s) := by
  obtain ⟨rest, written⟩ : ∃ rest, Csv.writeRecord stateHeader = 'i' :: rest := ⟨_, rfl⟩
  rw [stateRecords_eq, Csv.write, List.flatMap_cons, written]
  rfl

theorem texts_encode_states (s : Solution Float) :
    Csv.texts (Utf8.encode (states s).toList) =
      .ok (stateHeader :: (stateRows s).map StateRow.texts) := by
  rw [← stateRecords_eq]
  apply Csv.texts_encode
  rw [states, String.toList_ofList, withoutMark_states]
  apply Csv.lines_write
  rw [stateRecords_eq, List.forall_mem_cons, List.forall_mem_map]
  exact ⟨by decide, fun row _ => by rw [row.length_texts]; decide⟩

/-- A state file holds the header, one record for each body and one for the
Sun, all of eight fields. They say the ids, the masses and the states of the
solution, which need not be one that was solved. -/
theorem texts_states (s : Solution Float) (legible : ∀ row ∈ stateRows s, row.Legible) :
    ∃ records,
      Csv.texts (Utf8.encode (states s).toList) =
        .ok (["id", "mass", "position_x", "position_y", "position_z", "velocity_x", "velocity_y",
          "velocity_z"].map String.toList :: records) ∧
      records.length = s.bodies.length + 1 ∧ (∀ record ∈ records, record.length = 8) ∧
      records.mapM StateRow.ofTexts? =
        some (s.bodies.map (fun b => ⟨b.id, b.body.mass, b.state⟩)
          ++ [⟨"sun", s.sunMass, ⟨⟨0, 0, 0⟩, s.sunVelocity⟩⟩]) := by
  refine ⟨(stateRows s).map StateRow.texts, texts_encode_states s, ?_, ?_, ?_⟩
  · simp [stateRows]
  · exact List.forall_mem_map.2 fun row _ => row.length_texts
  · exact StateRow.mapM_ofTexts?_texts legible

/-- Ids that are empty, blank, quoted or broken over lines, and numbers that are
none, infinite, minus zero and as small as can be. -/
def unruly : Solution Float :=
  let body (id : String) (mass : Float) (v : Vec3 Float) : Placed Float :=
    { id, body := ⟨mass, 1, 1, ⟨0, 0, 0⟩, none, none⟩, state := ⟨⟨1e300, -0.0, 5e-324⟩, v⟩ }
  { bodies := [body "" (0 / 0) ⟨1, 2, 3⟩, body " a,\"b\"\r\n" (1 / 0) ⟨0.1, -1 / 0, 0 / 0⟩,
      body "sun" 7 ⟨1, 1, 1⟩]
    momentum := ⟨0, 0, 0⟩, sunMass := -1, sunVelocity := ⟨0 / 0, 1 / 3, -2.5e-7⟩ }

theorem texts_states_unruly :
    (∀ row ∈ stateRows unruly, row.Legible) ∧ ∃ records,
      Csv.texts (Utf8.encode (states unruly).toList) =
        .ok (["id", "mass", "position_x", "position_y", "position_z", "velocity_x", "velocity_y",
          "velocity_z"].map String.toList :: records) ∧
      records.length = 4 ∧ (∀ record ∈ records, record.length = 8) ∧
      records.mapM StateRow.ofTexts? =
        some (unruly.bodies.map (fun b => ⟨b.id, b.body.mass, b.state⟩)
          ++ [⟨"sun", -1, ⟨⟨0, 0, 0⟩, unruly.sunVelocity⟩⟩]) := by
  have legible : ∀ row ∈ stateRows unruly, row.Legible := by decide +kernel
  exact ⟨legible, texts_states unruly legible⟩

/-! ## The report again -/

/-- The line of a body's id, those of its position and its velocity, and an
empty one, from the fields of its record. -/
def bodyOfFields (record : List (List Char)) : List Char :=
  (record.headD [] ++ ['\n']) ++ ([',', ' '].intercalate ((record.drop 2).take 3) ++ ['\n'])
    ++ ([',', ' '].intercalate (record.drop 5) ++ ['\n']) ++ ['\n']

/-- A line of a vector in brackets behind its name, from the texts of its components. -/
def bracketed (name : String) (texts : List (List Char)) : List Char :=
  name.toList ++ [':', ' ', '['] ++ [',', ' '].intercalate texts ++ [']', '\n']

/-- The masses of rows times their velocities, added one row after another. -/
def momentumOf (rows : List StateRow) : Vec3 Float :=
  rows.foldl (fun sum row =>
    ⟨sum.x + row.state.velocity.x * row.mass, sum.y + row.state.velocity.y * row.mass,
      sum.z + row.state.velocity.z * row.mass⟩) ⟨0, 0, 0⟩

/-- The report that a state file leads to. The last record is the Sun's. -/
def ofStates? (bytes : List UInt8) : Option String := do
  let records := (← (Csv.texts bytes).toOption).tail
  let sun ← records.getLast?
  let momentum := momentumOf (← records.dropLast.mapM StateRow.ofTexts?)
  return String.ofList (records.dropLast.flatMap bodyOfFields
    ++ bracketed "Total momentum" [number momentum.x, number momentum.y, number momentum.z]
    ++ bracketed "Sun velocity for zero momentum" (sun.drop 5))

theorem bodyOfFields_texts (b : Placed Float) :
    bodyOfFields (StateRow.ofBody b).texts = body b :=
  rfl

theorem bracketed_number (name : String) (v : Vec3 Float) :
    bracketed name [number v.x, number v.y, number v.z] = total name v := by
  simp [bracketed, total, line, components]

/-- The momentum that the rows of the file add up to is that of the bodies. -/
theorem momentumOf_ofBody (bodies : List (Placed Float)) :
    momentumOf (bodies.map StateRow.ofBody) = momentum bodies :=
  List.foldl_map

theorem ofStates?_states {s : Solution Float} (momentum : s.momentum = momentum s.bodies)
    (legible : ∀ b ∈ s.bodies, (StateRow.ofBody b).Legible) :
    ofStates? (Utf8.encode (states s).toList) = some (text s) := by
  have rows := StateRow.mapM_ofTexts?_texts (List.forall_mem_map.2 legible)
  have bodies : ((s.bodies.map StateRow.ofBody).map StateRow.texts).flatMap bodyOfFields =
      s.bodies.flatMap body := by
    rw [List.map_map, List.flatMap_map]
    exact congrArg s.bodies.flatMap (funext bodyOfFields_texts)
  have sun : bracketed "Sun velocity for zero momentum"
      ((⟨sunId, s.sunMass, s.sunState⟩ : StateRow).texts.drop 5) =
      total "Sun velocity for zero momentum" s.sunVelocity := bracketed_number ..
  unfold ofStates?
  rw [texts_encode_states, stateRows, List.map_append]
  simp only [Except.toOption, Option.bind_eq_bind, Option.bind_some, List.tail_cons, List.map_cons,
    List.map_nil, List.getLast?_concat, List.dropLast_concat, rows, momentumOf_ofBody, ← momentum,
    bodies, bracketed_number, sun]
  rfl

/-- The system of a table that can be reached and a Sun that is physical is
reported by its state file: the lines of the bodies and of the Sun are there as
they are printed, and the momentum is what the numbers of the records add up
to, one record after another. -/
theorem ofStates?_of_reachable {t : Table Float} (h : Reachable t) {sunMass : Float}
    (valid : sunMass.isFinite = true ∧ ¬ sunMass ≤ 0) :
    ∃ s, t.solve sunMass = .ok s ∧
      ((∀ b ∈ s.bodies, (StateRow.ofBody b).Legible) →
        ofStates? (Utf8.encode (states s).toList) = some (text s)) := by
  obtain ⟨s, solved⟩ := exists_solve h.sound valid
  obtain ⟨-, momentum, -, -⟩ := (solve_eq_ok_iff ..).1 solved
  exact ⟨s, solved, ofStates?_states momentum⟩

/-- Ids that a state file has to quote, in orbits that are not turned. -/
def quotedIds : Table Float :=
  let body (mass speed : Float) : Body Float := ⟨mass, 0.1, speed, ⟨0, 0, 0⟩, none, none⟩
  ⟨[("", body 3 1e22), ("a, \"b\"\r\n", body 5e-324 0.3), (" sun", body 0 7)]⟩

theorem ofStates?_quotedIds :
    Reachable quotedIds ∧ ((2 : Float).isFinite = true ∧ ¬ (2 : Float) ≤ 0) ∧
      ∃ s, quotedIds.solve 2 = .ok s ∧
        ofStates? (Utf8.encode (states s).toList) = some (text s) := by
  have reachable : Reachable quotedIds :=
    .ofEntries ((Table.ofEntries_eq_ok_iff quotedIds.entries _).2 ⟨by decide +kernel, rfl⟩)
  have valid : (2 : Float).isFinite = true ∧ ¬ (2 : Float) ≤ 0 := by decide +kernel
  have legible : ∀ s ∈ (quotedIds.solve 2).toOption, ∀ b ∈ s.bodies,
      (StateRow.ofBody b).Legible := by decide +kernel
  obtain ⟨s, solved, reported⟩ := ofStates?_of_reachable reachable valid
  exact ⟨reachable, valid, s, solved, reported (legible s (by rw [solved]; rfl))⟩

end Report

end Periapsis
