import Mathlib.Data.List.Nodup
import Periapsis.Proofs.TableFile.Sheet

/-!
# Values under their columns

Where the values of a table that was read come from. Cells that were read are
those of fields under columns that differ (`Gathered`), and the entry that they
make is the one that they describe (`describe_of_entry`). So every value of a
body stands in its row under a column (`readAt_of_entryOf`): the one of its name,
in a file whose titles are texts, and in any other file the one at its place
(`read_byName_iff`).
-/

namespace Periapsis

theorem Column.ofName?_eq_some_iff (name : String) (column : Column) :
    Column.ofName? name = some column ↔ name = column.name := by
  constructor
  · intro h
    have found := List.find?_some h
    exact (beq_iff_eq.1 found).symm
  · rintro rfl
    exact Column.ofName?_name column

namespace TableFile

/-! ## Cells -/

theorem exists_of_readNumber_map {text : List Char} {cell : Cell}
    (h : (readNumber text).map Cell.number = .ok cell) :
    ∃ value, cell = .number value ∧ Decimal.readFloat? text = some value := by
  unfold readNumber at h
  split at h
  · rename_i value found
    exact ⟨value, (Except.ok.inj h).symm, found⟩
  · cases h

/-- A cell that was read holds what is written in its field. -/
theorem writtenAs_of_readCell {column : Column} {text : List Char} {cell : Cell}
    (h : readCell column text = .ok cell) : cell.WrittenAs text := by
  have number (h : (readNumber text).map Cell.number = .ok cell) : cell.WrittenAs text := by
    obtain ⟨value, rfl, found⟩ := exists_of_readNumber_map h
    exact found
  cases column with
  | id =>
    obtain rfl := Except.ok.inj h
    exact (String.toList_ofList).symm
  | radius | red | green | blue =>
    rw [readCell] at h
    split at h
    · rename_i empty
      obtain rfl := Except.ok.inj h
      exact empty
    · exact number h
  | mass | periapsis | speed | argument | inclination | ascendingNode => exact number h

/-- Cells that were read from fields under columns that differ, and those that
were there before. -/
structure Gathered (cells : List (Column × Cell)) (fields : List (Nat × Column × List Char))
    (read : List (Column × Cell)) : Prop where
  distinct : (fields.map (·.2.1)).Nodup
  fresh : ∀ field ∈ fields, cells.lookup field.2.1 = none
  found : ∀ field ∈ fields, ∃ cell, read.lookup field.2.1 = some cell ∧
    readCell field.2.1 field.2.2 = .ok cell
  other : ∀ column, column ∉ fields.map (·.2.1) → read.lookup column = cells.lookup column

theorem gathered_of_readCells {cells read : List (Column × Cell)}
    {fields : List (Nat × Column × List Char)} (h : readCells cells fields = .ok read) :
    Gathered cells fields read := by
  induction fields generalizing cells with
  | nil =>
    obtain rfl := Except.ok.inj h
    exact ⟨by simp, by simp, by simp, fun _ _ => rfl⟩
  | cons field fields ih =>
    obtain ⟨index, column, text⟩ := field
    rw [readCells] at h
    split at h
    · cases h
    rename_i notYet
    split at h
    swap
    · cases h
    rename_i cell hcell
    have rest := ih h
    have new : cells.lookup column = none := Option.not_isSome_iff_eq_none.1 notYet
    -- The column that was just read cannot come again.
    have once : column ∉ fields.map (·.2.1) := by
      intro again
      obtain ⟨field, mem, rfl⟩ := List.mem_map.1 again
      simpa using rest.fresh field mem
    refine ⟨?_, ?_, ?_, ?_⟩
    · rw [List.map_cons, List.nodup_cons]
      exact ⟨once, rest.distinct⟩
    · refine List.forall_mem_cons.2 ⟨new, fun field mem => ?_⟩
      have later := rest.fresh field mem
      rw [List.lookup_cons] at later
      split at later
      · cases later
      · exact later
    · refine List.forall_mem_cons.2 ⟨⟨cell, ?_, hcell⟩, rest.found⟩
      rw [rest.other column once, List.lookup_cons_self]
    · intro other notThere
      rw [List.map_cons, List.mem_cons, not_or] at notThere
      rw [rest.other other notThere.2, List.lookup_cons, beq_eq_false_iff_ne.2 notThere.1]

theorem Gathered.exists_field {fields : List (Nat × Column × List Char)}
    {read : List (Column × Cell)} (h : Gathered [] fields read) {column : Column} {cell : Cell}
    (found : read.lookup column = some cell) :
    ∃ field ∈ fields, field.2.1 = column ∧ readCell column field.2.2 = .ok cell := by
  by_cases there : column ∈ fields.map (·.2.1)
  · obtain ⟨field, mem, rfl⟩ := List.mem_map.1 there
    obtain ⟨cell', found', read'⟩ := h.found field mem
    rw [found, Option.some.injEq] at found'
    exact ⟨field, mem, rfl, found' ▸ read'⟩
  · rw [h.other column there] at found
    cases found

/-! ## Entries -/

theorem lookup_of_numberOf {heading : Heading} {length : Nat} {cells : List (Column × Cell)}
    {column : Column} {value : Float} (h : numberOf heading length cells column = .ok value) :
    cells.lookup column = some (.number value) := by
  unfold numberOf at h
  split at h
  · rename_i found
    rw [found, Except.ok.inj h]
  · cases h

theorem lookup_of_idOf {heading : Heading} {length : Nat} {cells : List (Column × Cell)}
    {id : String} (h : idOf heading length cells = .ok id) :
    cells.lookup .id = some (.text id) := by
  unfold idOf at h
  split at h
  · rename_i found
    rw [found, Except.ok.inj h]
  · cases h

/-- A cell that may be left empty has a number or is blank. -/
theorem lookup_getD_eq_optionalCell {cells : List (Column × Cell)} {column : Column}
    (noText : ∀ text, cells.lookup column ≠ some (.text text)) :
    (cells.lookup column).getD .blank = optionalCell (optionalOf cells column) := by
  unfold optionalOf
  cases found : cells.lookup column with
  | none => rfl
  | some cell =>
    cases cell with
    | text text => exact absurd found (noText text)
    | number value | blank => rfl

theorem readCell_ne_text {column : Column} (h : column ≠ .id) (text : List Char) (value : String) :
    readCell column text ≠ .ok (.text value) := by
  have number : (readNumber text).map Cell.number ≠ .ok (.text value) := by
    intro h
    obtain ⟨_, same, -⟩ := exists_of_readNumber_map h
    cases same
  cases column with
  | id => exact absurd rfl h
  | radius | red | green | blue =>
    rw [readCell]
    split
    · simp
    · exact number
  | mass | periapsis | speed | argument | inclination | ascendingNode => exact number

/-- A row that makes an entry is the row of this entry. -/
theorem eq_rowOf_of_entry {row : Row} {entry : String × Body Float} (plain : row.plain.color = none)
    (h : row.entry = .ok entry) : row = rowOf entry.1 entry.2 := by
  obtain ⟨id, ⟨mass, periapsis, speed, orientation, radius, color⟩, red, green, blue⟩ := row
  obtain rfl : color = none := plain
  unfold Row.entry at h
  split at h <;> cases h
  · simp_all [rowOf]
  · simp_all [rowOf]

/-- The cells of a row describe the entry that the row makes. -/
theorem describe_of_entry {heading : Heading} {texts : List (List Char)} {row : Row}
    {entry : String × Body Float} (made : Row.ofTexts heading texts = .ok row)
    (complete : row.entry = .ok entry) :
    ∃ cells, Gathered [] (heading.assign texts) cells ∧ Describe cells entry.1 entry.2 := by
  obtain ⟨cells, read, made⟩ := (bind_eq_ok_iff ..).1 made
  have gathered := gathered_of_readCells read
  refine ⟨cells, gathered, ?_⟩
  have optional {column : Column} (h : column ≠ .id) :
      (cells.lookup column).getD .blank = optionalCell (optionalOf cells column) := by
    refine lookup_getD_eq_optionalCell fun text found => ?_
    obtain ⟨field, -, -, hread⟩ := gathered.exists_field found
    exact readCell_ne_text h _ _ hread
  simp only [bind_eq_ok_iff] at made
  obtain ⟨id, hid, mass, hmass, periapsis, hperiapsis, speed, hspeed, argument, hargument,
    inclination, hinclination, node, hnode, made⟩ := made
  obtain rfl := Except.ok.inj made
  have same := eq_rowOf_of_entry rfl complete
  obtain ⟨id', ⟨_, _, _, ⟨_, _, _⟩, radius, color⟩⟩ := entry
  simp only [rowOf, Row.mk.injEq, Body.mk.injEq, Orientation.mk.injEq] at same
  obtain ⟨rfl, ⟨rfl, rfl, rfl, ⟨rfl, rfl, rfl⟩, rfl, -⟩, red, green, blue⟩ := same
  intro column
  cases column with
  | id => rw [lookup_of_idOf hid]; rfl
  | mass => rw [lookup_of_numberOf hmass]; rfl
  | periapsis => rw [lookup_of_numberOf hperiapsis]; rfl
  | speed => rw [lookup_of_numberOf hspeed]; rfl
  | argument => rw [lookup_of_numberOf hargument]; rfl
  | inclination => rw [lookup_of_numberOf hinclination]; rfl
  | ascendingNode => rw [lookup_of_numberOf hnode]; rfl
  | radius => exact optional (by decide)
  | red => rw [optional (by decide), red]; rfl
  | green => rw [optional (by decide), green]; rfl
  | blue => rw [optional (by decide), blue]; rfl

/-! ## Fields of records -/

/-- The text of a field, without blanks at its ends, if it is one. -/
def fieldText? (field : List UInt8) : Option (List Char) :=
  (Utf8.decode field).toOption.map Text.trim

theorem map_fieldText?_of_textsOf {start : Csv.Position} {fields : List (List UInt8)}
    {texts : List (List Char)} (h : textsOf start fields = .ok texts) :
    fields.map fieldText? = texts.map some := by
  rw [textsOf, mapM_eq_ok_iff] at h
  rw [← List.zipIdx_map_fst 0 fields, List.map_map, ← List.forall₂_eq_eq_eq,
    List.forall₂_map_left_iff, List.forall₂_map_right_iff]
  refine h.imp fun field text read => ?_
  obtain ⟨bytes, index⟩ := field
  dsimp only at read
  split at read
  · rename_i rest decoded
    obtain ⟨whole, read', same⟩ := Text.exists_decode_of_dropWhile decoded
    rw [← Except.ok.inj read, ← same]
    show (Utf8.decode bytes).toOption.map Text.trim = _
    rw [read']
    rfl
  · cases read

/-- The fields of a row stand under their columns at the same index. -/
theorem mem_assign_iff {heading : Heading} {texts : List (List Char)} {index : Nat}
    {column : Column} {text : List Char} :
    (index, column, text) ∈ heading.assign texts ↔
      texts[index]? = some text ∧ heading.columns[index]? = some (some column) := by
  simp only [Heading.assign, List.mem_filterMap, Option.map_eq_some_iff, Prod.mk.injEq,
    Prod.exists, List.mk_mem_zipIdx_iff_getElem?, List.getElem?_zip_eq_some]
  constructor
  · rintro ⟨_, _, _, ⟨found, titled⟩, _, rfl, rfl, rfl, rfl⟩
    exact ⟨found, titled⟩
  · rintro ⟨found, titled⟩
    exact ⟨_, _, _, ⟨found, titled⟩, _, rfl, rfl, rfl, rfl⟩

/-- What is read of an entry in a record whose columns stand at some indices. -/
structure ReadAt (stands : Nat → Column → Prop) (record : Csv.Record)
    (entry : String × Body Float) : Prop where
  cell : ∀ index column, stands index column → ∃ field text,
    record.fields[index]? = some field ∧ fieldText? field = some text ∧
      (cellOf entry.1 entry.2 column).WrittenAs text
  absent : ∀ column, (∀ index, ¬ stands index column) → cellOf entry.1 entry.2 column = .blank

/-- The heading of a header has a column at an index. -/
def Stands (header : Csv.Record) (index : Nat) (column : Column) : Prop :=
  index < header.fields.length ∧
    (Heading.ofFields header.fields).columns[index]? = some (some column)

/-- A record that stands for an entry has its values under the columns of the
heading, each of them at one index only. -/
theorem readAt_of_entryOf {header record : Csv.Record} {entry : String × Body Float}
    (h : entryOf header record = .ok entry) :
    ReadAt (Stands header) record entry ∧
      ∀ column i j, Stands header i column → Stands header j column → i = j := by
  obtain ⟨length, texts, row, found, made, complete⟩ := exists_row_of_entryOf h
  obtain ⟨cells, gathered, describe⟩ := describe_of_entry made complete
  have same := map_fieldText?_of_textsOf found
  have length : texts.length = header.fields.length := by
    rw [← length, ← List.length_map (f := some), ← same, List.length_map]
  have assigned {index : Nat} {column : Column} (at' : Stands header index column) :
      ∃ text, texts[index]? = some text ∧
        (index, column, text) ∈ (Heading.ofFields header.fields).assign texts := by
    obtain ⟨inside, titled⟩ := at'
    have there := List.getElem?_eq_getElem (length ▸ inside)
    exact ⟨_, there, mem_assign_iff.2 ⟨there, titled⟩⟩
  refine ⟨⟨fun index column at' => ?_, fun column nowhere => ?_⟩, fun column i j hi hj => ?_⟩
  · obtain ⟨text, there, mem⟩ := assigned at'
    obtain ⟨cell, hcell, read⟩ := gathered.found _ mem
    have field : (record.fields.map fieldText?)[index]? = some (some text) := by
      rw [same, List.getElem?_map, there]
      rfl
    rw [List.getElem?_map, Option.map_eq_some_iff] at field
    obtain ⟨field, hfield, htext⟩ := field
    refine ⟨field, text, hfield, htext, ?_⟩
    rw [← describe column, hcell]
    exact writtenAs_of_readCell read
  · rw [← describe column, gathered.other column]
    · rfl
    · intro mem
      obtain ⟨⟨index, _, text⟩, assigned, rfl⟩ := List.mem_map.1 mem
      obtain ⟨there, titled⟩ := mem_assign_iff.1 assigned
      have inside := (List.getElem?_eq_some_iff.1 there).1
      exact nowhere index ⟨length ▸ inside, titled⟩
  · obtain ⟨text, -, mem⟩ := assigned hi
    obtain ⟨text', -, mem'⟩ := assigned hj
    exact congrArg Prod.fst (List.inj_on_of_nodup_map gathered.distinct mem mem' rfl)

/-! ## Headers -/

/-- A header of which every title is a text. -/
def Readable (header : Csv.Record) : Prop :=
  ∀ title ∈ header.fields, (fieldText? title).isSome = true

instance (header : Csv.Record) : Decidable (Readable header) :=
  inferInstanceAs (Decidable (∀ title ∈ header.fields, (fieldText? title).isSome = true))

/-- The title at an index of a header is the name of a column. -/
def Titled (header : Csv.Record) (index : Nat) (column : Column) : Prop :=
  ∃ title, header.fields[index]? = some title ∧ fieldText? title = some column.name.toList

/-- A column stands at an index of a header without titles. -/
def Positioned (header : Csv.Record) (index : Nat) (column : Column) : Prop :=
  index < header.fields.length ∧ Column.all[index]? = some column

theorem fieldText?_of_decode {field : List UInt8} {text : List Char}
    (h : Utf8.decode field = .ok text) : fieldText? field = some (Text.trim text) := by
  rw [fieldText?, h]
  rfl

theorem ofFields_of_readable {header : Csv.Record} (h : Readable header) :
    ∃ titles : List (List Char), header.fields.map fieldText? = titles.map some ∧
      Heading.ofFields header.fields =
        .named (titles.map fun title => Column.ofName? (String.ofList title)) := by
  unfold Heading.ofFields
  split
  · rename_i names read
    refine ⟨names.map Text.trim, ?_, by rw [List.map_map]; rfl⟩
    rw [mapM_eq_ok_iff] at read
    rw [List.map_map, ← List.forall₂_eq_eq_eq, List.forall₂_map_left_iff, List.forall₂_map_right_iff]
    exact read.imp fun _ _ => fieldText?_of_decode
  · rename_i fails
    obtain ⟨title, mem, fails⟩ := exists_of_mapM_eq_error fails
    have readable := h title mem
    simp [fieldText?, fails, Except.toOption] at readable

theorem ofFields_of_not_readable {header : Csv.Record} (h : ¬ Readable header) :
    Heading.ofFields header.fields = .unnamed := by
  unfold Heading.ofFields
  split
  · rename_i names read
    refine absurd (fun title mem => ?_) h
    obtain ⟨name, -, decoded⟩ := exists_of_mem_of_forall₂ ((mapM_eq_ok_iff ..).1 read).flip mem
    rw [fieldText?_of_decode decoded]
    rfl
  · rfl

/-- Under titles that are texts, a column stands where it is named. -/
theorem stands_eq_titled {header : Csv.Record} (readable : Readable header) :
    Stands header = Titled header := by
  refine funext₂ fun index column => propext ?_
  obtain ⟨titles, texts, heading⟩ := ofFields_of_readable readable
  have titled : Titled header index column ↔ titles[index]? = some column.name.toList := by
    have there : Titled header index column ↔
        (header.fields.map fieldText?)[index]? = some (some column.name.toList) := by
      rw [List.getElem?_map, Option.map_eq_some_iff]
      rfl
    rw [there, texts, List.getElem?_map, Option.map_eq_some_iff]
    simp
  have length : titles.length = header.fields.length := by
    rw [← List.length_map (f := some), ← texts, List.length_map]
  rw [titled, Stands, heading, Heading.columns, List.getElem?_map, Option.map_eq_some_iff]
  simp only [Column.ofName?_eq_some_iff]
  constructor
  · rintro ⟨-, title, found, name⟩
    rw [found, ← name, String.toList_ofList]
  · intro found
    exact ⟨length ▸ (List.getElem?_eq_some_iff.1 found).1, _, found, String.ofList_toList⟩

/-- Where a title is no text, a column stands at its own place. -/
theorem stands_eq_positioned {header : Csv.Record} (unreadable : ¬ Readable header) :
    Stands header = Positioned header := by
  refine funext₂ fun index column => propext ?_
  rw [Stands, ofFields_of_not_readable unreadable, Heading.columns, List.getElem?_map,
    Option.map_eq_some_iff, Positioned]
  simp

/-! ## Files -/

/-- The columns under which every body has a value. -/
def requiredColumns : List Column :=
  [.id, .mass, .periapsis, .speed, .argument, .inclination, .ascendingNode]

theorem cellOf_ne_blank {column : Column} (required : column ∈ requiredColumns) (id : String)
    (b : Body Float) : cellOf id b column ≠ .blank := by
  simp only [requiredColumns, List.mem_cons, List.not_mem_nil, or_false] at required
  rcases required with rfl | rfl | rfl | rfl | rfl | rfl | rfl <;> exact Cell.noConfusion

/-- Entries that are read by the names in a header: it names every required
column once and no column twice, and what is read of an entry stands in its row
under the names. -/
structure ByName (header : Csv.Record) (rows : List Csv.Record)
    (entries : List (String × Body Float)) : Prop where
  readable : Readable header
  named : ∀ column ∈ requiredColumns, ∃! index, Titled header index column
  distinct : ∀ column i j, Titled header i column → Titled header j column → i = j
  rows : List.Forall₂ (ReadAt (Titled header)) rows entries

/-- A table with bodies that was read from a file was read by the names in its
header exactly when every title there is a text. When one of them is none, the
columns are taken in the order in which they are written, whatever the other
titles say. -/
theorem read_byName_iff {bytes : List UInt8} {t : Table Float} (h : read bytes = .ok t)
    (nonempty : t.entries ≠ []) :
    ∃ header rows, Csv.records bytes = header :: rows ∧
      (ByName header rows t.entries ↔ Readable header) ∧
      (¬ Readable header → List.Forall₂ (ReadAt (Positioned header)) rows t.entries) := by
  obtain empty | ⟨header, rows, records, -, looked⟩ := empty_or_rows_of_read h
  · exact absurd (congrArg Table.entries empty) nonempty
  have under : List.Forall₂ (ReadAt (Stands header)) rows t.entries :=
    looked.imp fun _ _ read => (readAt_of_entryOf read).1
  refine ⟨header, rows, records, ⟨ByName.readable, fun readable => ?_⟩, fun unreadable =>
    stands_eq_positioned unreadable ▸ under⟩
  obtain ⟨entry, mem⟩ := List.exists_mem_of_ne_nil _ nonempty
  obtain ⟨row, -, read⟩ := exists_of_mem_of_forall₂ looked mem
  have found := readAt_of_entryOf read
  rw [stands_eq_titled readable] at found under
  obtain ⟨readAt, once⟩ := found
  refine ⟨readable, fun column required => ?_, once, under⟩
  by_contra nowhere
  refine cellOf_ne_blank required entry.1 entry.2 (readAt.absent column fun index titled => ?_)
  exact nowhere ⟨index, titled, fun other titled' => once column other index titled' titled⟩

/-- The file of one row is read by the names in its header. -/
theorem read_ceresFile_byName :
    (∃ t, read (Utf8.encode ceresFile) = .ok t ∧ t.entries ≠ []) ∧
      ∃ header rows, Csv.records (Utf8.encode ceresFile) = header :: rows ∧
        ByName header rows [("ceres", ceres)] := by
  obtain ⟨loaded, titles⟩ :
      (read (Utf8.encode ceresFile)).toOption = some ⟨[("ceres", ceres)]⟩ ∧
        (Csv.records (Utf8.encode ceresFile)).head?.any (decide <| Readable ·) = true := by
    decide +kernel
  have found := eq_ok_of_toOption loaded
  have nonempty : (⟨[("ceres", ceres)]⟩ : Table Float).entries ≠ [] := List.cons_ne_nil _ _
  obtain ⟨header, rows, records, byName, -⟩ := read_byName_iff found nonempty
  rw [records] at titles
  exact ⟨⟨_, found, nonempty⟩, header, rows, records, byName.2 (of_decide_eq_true titles)⟩

/-- A file whose header has a title that is no text. Masses and distances stand
in another order than they are written in. -/
def latinFile : List UInt8 :=
  Utf8.encode ("id,periapsis,mass,speed,argument_of_periapsis,inclination," ++
    "longitude_of_ascending_node,d").toList ++ 0xE9 ::
    Utf8.encode "couverte\nceres,381e9,9.4e20,17900,73.6,10.59,80.3,1801\n".toList

/-- A body whose mass and distance were taken from each other's columns, and
whose radius from a column of another name. -/
def swappedCeres : Body Float :=
  { ceres with mass := ceres.periapsis, periapsis := ceres.mass, radius := some 1801 }

theorem read_latinFile :
    read latinFile = .ok ⟨[("ceres", swappedCeres)]⟩ ∧
      ¬ ∃ header rows, Csv.records latinFile = header :: rows ∧
        ByName header rows [("ceres", swappedCeres)] := by
  obtain ⟨loaded, titles⟩ : (read latinFile).toOption = some ⟨[("ceres", swappedCeres)]⟩ ∧
      (Csv.records latinFile).head?.any (decide <| Readable ·) = false := by
    decide +kernel
  refine ⟨eq_ok_of_toOption loaded, ?_⟩
  rintro ⟨header, rows, records, byName⟩
  rw [records] at titles
  exact of_decide_eq_false titles byName.readable

end TableFile

end Periapsis
