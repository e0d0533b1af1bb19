import Mathlib.Data.List.ReduceOption
import Periapsis.Proofs.Csv.Lines
import Periapsis.Proofs.TableFile.Cells
import Periapsis.Proofs.TableFile.Rows

/-!
# Layouts of tables

A sheet holds the texts of a table: its columns in any order, some of them
perhaps not known, and blanks around every text (`Sheet.Shows`). Together with
the layouts of comma-separated files (`Csv.Lines`) this gives the files of a
table:

* `RowShows.entryOf_eq`: a record with the texts of a row stands for its entry;
* `read_encode`: a file is read as the table that the entries of its sheet make,
  or fails as they do, their ids without blanks at their ends;
* `read_eq_of_lines`: so all files of a table are read as this table.
-/

namespace Periapsis

theorem Column.trim_name (column : Column) :
    Text.trim column.name.toList = column.name.toList := by
  cases column <;> decide

theorem Column.ofName?_name (column : Column) : Column.ofName? column.name = some column := by
  cases column <;> decide

namespace TableFile

/-! ## Sheets -/

/-- A text with spaces and tabs around it. -/
def Padded (value text : List Char) : Prop :=
  ∃ before after, text = before ++ value ++ after ∧ ∀ c ∈ before ++ after, c = ' ' ∨ c = '\t'

/-- What stands in a header over a column, or over one that is not known. -/
inductive Title : Option Column → List Char → Prop where
  | known (column : Column) {text : List Char} :
    Padded column.name.toList text → Title (some column) text
  | unknown {text : List Char} :
    (∀ column : Column, Text.trim text ≠ column.name.toList) → Title none text

/-- What stands in the row of an entry under a column. Where the column is not
known this may be anything. -/
inductive Filled (id : String) (b : Body Float) : Option Column → List Char → Prop where
  | known (column : Column) {value text : List Char} :
    (cellOf id b column).WrittenAs value → Padded value text → Filled id b (some column) text
  | unknown (text : List Char) : Filled id b none text

/-- The row of an entry. What it has no column for is blank. -/
structure RowShows (columns : List (Option Column)) (entry : String × Body Float)
    (row : List (List Char)) : Prop where
  filled : List.Forall₂ (Filled entry.1 entry.2) columns row
  blank : ∀ column, some column ∉ columns → cellOf entry.1 entry.2 column = .blank

/-- The texts of a table, and what its columns are. -/
structure Sheet where
  columns : List (Option Column)
  header : List (List Char)
  rows : List (List (List Char))

/-- A sheet with these entries: every known column at most once, and for each
entry its row. -/
structure Sheet.Shows (sheet : Sheet) (entries : List (String × Body Float)) : Prop where
  titled : List.Forall₂ Title sheet.columns sheet.header
  distinct : sheet.columns.reduceOption.Nodup
  rows : List.Forall₂ (RowShows sheet.columns) entries sheet.rows

theorem Padded.refl (value : List Char) : Padded value value :=
  ⟨[], [], by simp, nofun⟩

theorem Padded.trim_eq {value text : List Char} (h : Padded value text) :
    Text.trim text = Text.trim value := by
  obtain ⟨before, after, rfl, blank⟩ := h
  have blank : ∀ c ∈ before ++ after, Text.isBlank c = true := by
    intro c hc
    rcases blank c hc with rfl | rfl <;> decide
  obtain ⟨left, right⟩ := List.forall_mem_append.1 blank
  exact Text.trim_append_append left right value

/-! ## Headers -/

theorem Title.ofName?_eq {column : Option Column} {text : List Char} (h : Title column text) :
    Column.ofName? (String.ofList (Text.trim text)) = column := by
  cases h with
  | known column padded =>
    rw [padded.trim_eq, Column.trim_name, String.ofList_toList, Column.ofName?_name]
  | unknown other =>
    refine List.find?_eq_none.2 fun column _ same => other column ?_
    rw [beq_iff_eq.1 same, String.toList_ofList]

theorem mapM_decode_encode (texts : List (List Char)) :
    (texts.map Utf8.encode).mapM Utf8.decode = .ok texts := by
  rw [mapM_eq_ok_iff, List.forall₂_map_left_iff]
  exact List.forall₂_same.2 fun text _ => Utf8.decode_encode text

theorem ofFields_encode {columns : List (Option Column)} {header : List (List Char)}
    (titled : List.Forall₂ Title columns header) :
    Heading.ofFields (header.map Utf8.encode) = .named columns := by
  rw [Heading.ofFields, mapM_decode_encode]
  apply congrArg Heading.named
  induction titled with
  | nil => rfl
  | cons title _ ih => rw [List.map_cons, title.ofName?_eq, ih]

/-! ## Rows -/

theorem textsOf_encode (start : Csv.Position) (texts : List (List Char)) :
    textsOf start (texts.map Utf8.encode) = .ok (texts.map Text.trim) := by
  rw [textsOf, mapM_eq_ok_iff]
  generalize 0 = index
  induction texts generalizing index with
  | nil => exact .nil
  | cons text texts ih =>
    refine .cons ?_ (ih (index + 1))
    obtain ⟨rest, decoded, trimmed⟩ := Text.exists_decode_dropWhile text
    simp only [decoded, trimmed]

/-- The fields of a row are assigned to the columns that are known. -/
theorem map_assign {columns : List (Option Column)} {texts : List (List Char)}
    (length : columns.length = texts.length) :
    ((Heading.named columns).assign texts).map (·.2.1) = columns.reduceOption := by
  have under : (texts.zip columns).zipIdx.map (Prod.snd ∘ Prod.fst) = columns := by
    rw [← List.map_map, List.zipIdx_map_fst, List.map_snd_zip (by rw [length])]
  rw [Heading.assign, List.map_filterMap]
  calc _ = (texts.zip columns).zipIdx.filterMap (id ∘ Prod.snd ∘ Prod.fst) := ?_
    _ = ((texts.zip columns).zipIdx.map (Prod.snd ∘ Prod.fst)).filterMap id :=
      List.filterMap_map.symm
    _ = columns.reduceOption := by rw [under, List.reduceOption]
  refine List.filterMap_congr fun ⟨⟨text, column⟩, index⟩ _ => ?_
  cases column <;> rfl

theorem mem_assign {columns : List (Option Column)} {texts : List (List Char)}
    {field : Nat × Column × List Char} (h : field ∈ (Heading.named columns).assign texts) :
    (field.2.2, some field.2.1) ∈ texts.zip columns := by
  obtain ⟨⟨⟨text, column⟩, index⟩, hmem, hfield⟩ := List.mem_filterMap.1 h
  obtain ⟨column, rfl, rfl⟩ := Option.map_eq_some_iff.1 hfield
  exact List.fst_mem_of_mem_zipIdx hmem

theorem Filled.readCell_eq {id : String} {b : Body Float} {column : Column} {text : List Char}
    (h : Filled id b (some column) text) :
    readCell column (Text.trim text) = .ok (cellOf (trimId id) b column) := by
  cases h with
  | known _ written padded =>
    rw [padded.trim_eq]
    exact readCell_trim written

theorem cellOf_eq_blank_of_trimId {id : String} {b : Body Float} {column : Column}
    (h : cellOf id b column = .blank) : cellOf (trimId id) b column = .blank := by
  cases column with
  | id => cases h
  | _ => simpa only [cellOf] using h

theorem RowShows.ofTexts_eq {columns : List (Option Column)} {id : String} {b : Body Float}
    {row : List (List Char)} (h : RowShows columns (id, b) row)
    (distinct : columns.reduceOption.Nodup) :
    Row.ofTexts (.named columns) (row.map Text.trim) = .ok (rowOf (trimId id) b) := by
  have length : columns.length = (row.map Text.trim).length := by
    rw [h.filled.length_eq, List.length_map]
  have known := map_assign length
  have reads : ∀ field ∈ (Heading.named columns).assign (row.map Text.trim),
      readCell field.2.1 field.2.2 = .ok (cellOf (trimId id) b field.2.1) := by
    intro field hfield
    have hzip := mem_assign hfield
    rw [List.zip_map_left, List.mem_map] at hzip
    obtain ⟨⟨text, column⟩, hzip, hfield⟩ := hzip
    obtain ⟨htext, hcolumn⟩ := Prod.mk.inj hfield
    have here : Filled id b column text :=
      List.forall₂_zip (List.Forall₂.flip (R := flip (Filled id b)) h.filled) hzip
    rw [← htext]
    exact (hcolumn ▸ here : Filled id b (some field.2.1) text).readCell_eq
  have read : readCells [] ((Heading.named columns).assign (row.map Text.trim)) = _ :=
    readCells_eq_graph reads (by rw [known]; exact distinct : ([] ++ _ : List Column).Nodup)
  refine Describe.ofTexts_eq (fun column => ?_) read
  have reduced : column ∈ columns.reduceOption ↔ some column ∈ columns :=
    List.reduceOption_mem_iff
  rw [known, lookup_graph]
  simp only [List.nil_append, List.mem_reverse, reduced]
  split
  · rfl
  · rename_i absent
    exact (cellOf_eq_blank_of_trimId (h.blank column absent)).symm

theorem readRow_eq_ok {header record : Csv.Record} {texts : List (List Char)} {row : Row}
    (length : record.fields.length = header.fields.length)
    (read : textsOf record.start record.fields = .ok texts)
    (made : Row.ofTexts (.ofFields header.fields) texts = .ok row) :
    readRow header record = .ok row := by
  unfold readRow
  rw [if_neg (not_not.2 length)]
  show (textsOf record.start record.fields >>= _) = _
  rw [read]
  simp only [bind, Except.bind, made]
  rfl

/-- A record with the texts of a row stands for the entry of the row. -/
theorem RowShows.entryOf_eq {columns : List (Option Column)} {entry : String × Body Float}
    {row titles : List (List Char)} (h : RowShows columns entry row)
    (titled : List.Forall₂ Title columns titles) (distinct : columns.reduceOption.Nodup)
    {header record : Csv.Record} (hheader : header.fields = titles.map Utf8.encode)
    (hrow : record.fields = row.map Utf8.encode) :
    entryOf header record = .ok (trimId entry.1, entry.2) := by
  have length : record.fields.length = header.fields.length := by
    rw [hrow, hheader, List.length_map, List.length_map, ← h.filled.length_eq, titled.length_eq]
  have made : Row.ofTexts (.ofFields header.fields) (row.map Text.trim) =
      .ok (rowOf (trimId entry.1) entry.2) := by
    rw [hheader, ofFields_encode titled]
    exact h.ofTexts_eq distinct
  have read := readRow_eq_ok length (hrow ▸ textsOf_encode record.start row) made
  rw [entryOf, read]
  exact entry_rowOf _ _

/-! ## Files -/

/-- Entries as they are read, without blanks at the ends of their ids. -/
def trimIds (entries : List (String × Body Float)) : List (String × Body Float) :=
  entries.map fun entry => (trimId entry.1, entry.2)

theorem trimIds_eq_self_iff (entries : List (String × Body Float)) :
    trimIds entries = entries ↔ ∀ entry ∈ entries, Text.Trimmed entry.1.toList := by
  have fixed (entry : String × Body Float) :
      (trimId entry.1, entry.2) = entry ↔ Text.Trimmed entry.1.toList := by
    rw [← trimId_eq_self_iff, Prod.ext_iff, and_iff_left rfl]
  simp only [← fixed]
  rw [← List.map_inj_left (g := fun entry => entry), List.map_id']
  rfl

theorem forall₂_entryOf {columns : List (Option Column)} {titles : List (List Char)}
    (titled : List.Forall₂ Title columns titles) (distinct : columns.reduceOption.Nodup)
    {header : Csv.Record} (hheader : header.fields = titles.map Utf8.encode)
    {entries : List (String × Body Float)} {rows : List (List (List Char))}
    (shown : List.Forall₂ (RowShows columns) entries rows) {records : List Csv.Record}
    (hrecords : records.map Csv.Record.fields = rows.map (·.map Utf8.encode)) :
    List.Forall₂ (fun record entry => entryOf header record = .ok entry) records
      (trimIds entries) := by
  induction shown generalizing records with
  | nil =>
    rw [List.map_eq_nil_iff.1 hrecords]
    exact .nil
  | cons row _ ih =>
    obtain ⟨record, rest, rfl, hrow, hrest⟩ := List.map_eq_cons_iff.1 hrecords
    exact .cons (row.entryOf_eq titled distinct hheader hrow) (ih hrest)

/-- A file is read as the table that the entries of its sheet make, or fails as they do. -/
theorem read_encode {sheet : Sheet} {entries : List (String × Body Float)}
    (shows : sheet.Shows entries) {text : List Char}
    (lines : Csv.Lines (sheet.header :: sheet.rows) (Csv.withoutMark text)) :
    read (Utf8.encode text) = Table.ofEntries (trimIds entries) := by
  obtain ⟨header, records, hrecords, hheader, hrows⟩ :=
    List.map_eq_cons_iff.1 (Csv.fields_records lines)
  rw [read_eq_of_records hrecords]
  exact readRecords_eq_insertAll .empty
    (forall₂_entryOf shows.titled shows.distinct hheader shows.rows hrows)

/-- All files of a table are read as this table, whatever the order of the
columns, the quotes, the blanks, the line ends and the empty lines. -/
theorem read_eq_of_lines {entries : List (String × Body Float)} {t : Table Float}
    (made : Table.ofEntries entries = .ok t)
    (trimmed : ∀ entry ∈ entries, Text.Trimmed entry.1.toList) {sheet : Sheet}
    (shows : sheet.Shows entries) {text : List Char}
    (lines : Csv.Lines (sheet.header :: sheet.rows) (Csv.withoutMark text)) :
    read (Utf8.encode text) = .ok t := by
  rw [read_encode shows lines, (trimIds_eq_self_iff entries).2 trimmed, made]

def ceres : Body Float where
  mass := 9.4e20
  periapsis := 381e9
  speed := 17.9e3
  orientation := { argument := 73.6, inclination := 10.59, ascendingNode := 80.3 }
  radius := none
  color := none

def ceresRow : List (List Char) :=
  ["the \"first\", 1801", "9.4e20", " ceres\t", "17900", "381e9", "+10.59", "73.60", "80.3"].map
    String.toList

def ceresSheet : Sheet where
  columns := [none, some .mass, some .id, some .speed, some .periapsis, some .inclination,
    some .argument, some .ascendingNode]
  header := ["note", " mass ", "id", "speed", "periapsis", "inclination", "argument_of_periapsis",
    "longitude_of_ascending_node"].map String.toList
  rows := [ceresRow]

theorem ceresSheet_shows : ceresSheet.Shows [("ceres", ceres)] where
  titled := by
    have other : ∀ column : Column, Text.trim "note".toList ≠ column.name.toList := by
      intro column
      cases column <;> decide
    have padded : Padded Column.mass.name.toList " mass ".toList := ⟨[' '], [' '], by decide, by simp⟩
    exact .cons (.unknown other) <| .cons (.known .mass padded) <|
      .cons (.known .id (.refl _)) <| .cons (.known .speed (.refl _)) <|
      .cons (.known .periapsis (.refl _)) <| .cons (.known .inclination (.refl _)) <|
      .cons (.known .argument (.refl _)) <| .cons (.known .ascendingNode (.refl _)) .nil
  distinct := by decide
  rows := by
    have padded : Padded "ceres".toList " ceres\t".toList := ⟨[' '], ['\t'], by decide, by simp⟩
    have number {column : Column} {text : List Char} {x : Float}
        (hx : cellOf "ceres" ceres column = .number x) (read : Decimal.readFloat? text = some x) :
        Filled "ceres" ceres (some column) text :=
      .known column (by rw [hx]; exact read) (.refl text)
    refine .cons ⟨?_, ?_⟩ .nil
    · exact .cons (.unknown _) <| .cons (number rfl (by decide +kernel)) <|
        .cons (.known .id rfl padded) <| .cons (number rfl (by decide +kernel)) <|
        .cons (number rfl (by decide +kernel)) <| .cons (number rfl (by decide +kernel)) <|
        .cons (number rfl (by decide +kernel)) <| .cons (number rfl (by decide +kernel)) .nil
    · intro column absent
      cases column <;> first | rfl | exact absurd (by decide) absent

def ceresTitles : List (List Char) :=
  ["note", " mass ", "\"id\"", "speed", "periapsis", "inclination", "argument_of_periapsis",
    "longitude_of_ascending_node"].map String.toList

def ceresCells : List (List Char) :=
  ["\"the \"\"first\"\", 1801\"", "9.4e20", " ceres\t", "17900", "381e9", "+10.59", "73.60",
    "80.3"].map String.toList

/-- Behind a byte order mark and an empty line, the header and a further empty
line, and no end of the last line. -/
def ceresFile : List Char :=
  ['\uFEFF', '\r', '\n'] ++ [','].intercalate ceresTitles ++ ['\r', '\r', '\n'] ++
    [','].intercalate ceresCells

theorem read_ceresFile : read (Utf8.encode ceresFile) = .ok ⟨[("ceres", ceres)]⟩ := by
  have made : Table.ofEntries [("ceres", ceres)] = .ok ⟨[("ceres", ceres)]⟩ :=
    (Table.ofEntries_eq_ok_iff ..).2 ⟨by decide +kernel, rfl⟩
  have trimmed : Text.Trimmed "ceres".toList := (Text.trim_eq_self_iff _).1 (by decide)
  apply read_eq_of_lines made (List.forall_mem_singleton.2 trimmed) ceresSheet_shows
  have header : Csv.Line ceresSheet.header ([','].intercalate ceresTitles) :=
    Csv.line_intercalate (by decide) (by decide)
  have row : Csv.Line ceresRow ([','].intercalate ceresCells) :=
    Csv.line_intercalate (by decide) (by decide)
  have lineEnd : ['\r'] ∈ Csv.lineEnds ∧ ['\r', '\n'] ∈ Csv.lineEnds := by decide
  have file : Csv.withoutMark ceresFile = ['\r', '\n'] ++ ([','].intercalate ceresTitles ++ ['\r'] ++
      (['\r', '\n'] ++ [','].intercalate ceresCells)) := by
    simp only [ceresFile, List.append_assoc, List.cons_append, List.nil_append, Csv.withoutMark]
  rw [file]
  exact .blank lineEnd.2 <| .ended header (by decide) lineEnd.1 <|
    .blank lineEnd.2 <| .unended row (by decide)

end TableFile

end Periapsis
