import Periapsis.Proofs.Decimal.Reading
import Periapsis.TableFile

/-!
# The cells of a row

What a row with an entry says under each column (`cellOf`), in which texts
(`Cell.WrittenAs`), and that the entry is read back from them:

* `readCell_trim`: a cell is read from each of its texts, up to the blanks
  around an id;
* `readCells_eq_graph`: under columns that differ every cell is read;
* `Describe.ofTexts_eq`, `entry_rowOf`: cells that describe an entry make its
  row, and the row makes the entry. What stands under no column is blank.
-/

namespace Periapsis

/-- The texts that a cell may be written as. -/
def Cell.WrittenAs : Cell → List Char → Prop
  | .text value, written => written = value.toList
  | .number value, written => Decimal.readFloat? written = some value
  | .blank, written => written = []

namespace TableFile

def optionalCell : Option Float → Cell
  | some value => .number value
  | none => .blank

/-- What a row with an entry says under a column. -/
def cellOf (id : String) (b : Body Float) : Column → Cell
  | .id => .text id
  | .mass => .number b.mass
  | .periapsis => .number b.periapsis
  | .speed => .number b.speed
  | .argument => .number b.orientation.argument
  | .inclination => .number b.orientation.inclination
  | .ascendingNode => .number b.orientation.ascendingNode
  | .radius => optionalCell b.radius
  | .red => optionalCell (b.color.map Color.red)
  | .green => optionalCell (b.color.map Color.green)
  | .blue => optionalCell (b.color.map Color.blue)

/-- An id as it is read, without blanks at its ends. -/
def trimId (id : String) : String :=
  String.ofList (Text.trim id.toList)

theorem trimId_eq_self_iff (id : String) : trimId id = id ↔ Text.Trimmed id.toList := by
  rw [← Text.trim_eq_self_iff, trimId]
  constructor
  · intro h
    rw [← h, String.toList_ofList, Text.trim_trim]
  · intro h
    rw [h, String.ofList_toList]

/-! ## Single cells -/

theorem readNumber_trim {text : List Char} {x : Float} (h : Decimal.readFloat? text = some x) :
    readNumber (Text.trim text) = .ok x := by
  rw [Decimal.trim_of_readFloat? h, readNumber, h]

theorem readOptional_trim {text : List Char} {value : Option Float}
    (h : (optionalCell value).WrittenAs text) :
    (if Text.trim text = [] then .ok .blank else (readNumber (Text.trim text)).map Cell.number) =
      (.ok (optionalCell value) : Except Csv.NumberFault Cell) := by
  cases value with
  | none =>
    have empty : text = [] := h
    rw [empty]
    rfl
  | some x =>
    have number : Decimal.readFloat? text = some x := h
    rw [if_neg (by rw [Decimal.trim_of_readFloat? number]; exact Decimal.ne_nil_of_readFloat? number),
      readNumber_trim number]
    rfl

/-- A cell is read from each of its texts, up to the blanks around an id. -/
theorem readCell_trim {id : String} {b : Body Float} {column : Column} {text : List Char}
    (h : (cellOf id b column).WrittenAs text) :
    readCell column (Text.trim text) = .ok (cellOf (trimId id) b column) := by
  cases column with
  | id =>
    have verbatim : text = id.toList := h
    rw [verbatim]
    rfl
  | radius | red | green | blue => exact readOptional_trim h
  | mass | periapsis | speed | argument | inclination | ascendingNode =>
    exact congrArg (Except.map Cell.number) (readNumber_trim h)

/-! ## All cells of a row -/

/-- The cells under some columns. -/
def graph (cellAt : Column → Cell) (columns : List Column) : List (Column × Cell) :=
  columns.map fun column => (column, cellAt column)

theorem lookup_graph (cellAt : Column → Cell) (columns : List Column) (column : Column) :
    (graph cellAt columns).lookup column = if column ∈ columns then some (cellAt column) else none := by
  induction columns with
  | nil => rfl
  | cons first columns ih =>
    rw [graph, List.map_cons, List.lookup_cons]
    by_cases same : column = first
    · rw [same, beq_self_eq_true, if_pos List.mem_cons_self]
    · simp only [beq_eq_false_iff_ne.2 same, List.mem_cons, same, false_or]
      exact ih

/-- Under columns that differ every cell is read. The last one comes first. -/
theorem readCells_eq_graph {cellAt : Column → Cell} {fields : List (Nat × Column × List Char)}
    (reads : ∀ field ∈ fields, readCell field.2.1 field.2.2 = .ok (cellAt field.2.1))
    {columns : List Column} (distinct : (columns ++ fields.map (·.2.1)).Nodup) :
    readCells (graph cellAt columns.reverse) fields =
      .ok (graph cellAt (columns ++ fields.map (·.2.1)).reverse) := by
  induction fields generalizing columns with
  | nil => rw [List.map_nil, List.append_nil]; rfl
  | cons field fields ih =>
    obtain ⟨index, column, text⟩ := field
    obtain ⟨first, rest⟩ := List.forall_mem_cons.1 reads
    rw [List.map_cons, List.append_cons] at distinct ⊢
    have fresh : column ∉ columns.reverse := by
      have := (List.nodup_append.1 (List.nodup_append.1 distinct).1).2.2
      exact fun h => this column (List.mem_reverse.1 h) column List.mem_cons_self rfl
    rw [readCells, lookup_graph, if_neg fresh, if_neg (by decide), first, ← ih rest distinct,
      List.reverse_append]
    rfl

/-! ## Rows -/

/-- Cells that describe an entry. What stands under no column is blank. -/
def Describe (cells : List (Column × Cell)) (id : String) (b : Body Float) : Prop :=
  ∀ column, (cells.lookup column).getD .blank = cellOf id b column

section Describe

variable {cells : List (Column × Cell)} {id : String} {b : Body Float}

theorem Describe.lookup_eq (h : Describe cells id b) {column : Column}
    (filled : cellOf id b column ≠ .blank) :
    cells.lookup column = some (cellOf id b column) := by
  have described := h column
  cases found : cells.lookup column with
  | none => rw [found] at described; exact absurd described.symm filled
  | some cell => rw [found] at described; exact congrArg some described

theorem Describe.idOf_eq (h : Describe cells id b) (heading : Heading) (length : Nat) :
    idOf heading length cells = .ok id := by
  have found : cells.lookup .id = some (cellOf id b .id) := h.lookup_eq nofun
  rw [idOf, found, cellOf]

theorem Describe.numberOf_eq (h : Describe cells id b) (heading : Heading) (length : Nat)
    (column : Column) {x : Float} (hx : cellOf id b column = .number x) :
    numberOf heading length cells column = .ok x := by
  have found : cells.lookup column = _ := h.lookup_eq (by rw [hx]; nofun)
  rw [numberOf, found, hx]

theorem Describe.optionalOf_eq (h : Describe cells id b) (column : Column) {value : Option Float}
    (hv : cellOf id b column = optionalCell value) : optionalOf cells column = value := by
  have described := h column
  rw [hv] at described
  cases value with
  | some x =>
    have found : cells.lookup column = _ := h.lookup_eq (by rw [hv]; nofun)
    rw [optionalOf, found, hv]
    rfl
  | none =>
    unfold optionalOf
    split
    · rename_i found
      rw [found] at described
      cases described
    · rfl

/-- The row of an entry. -/
def rowOf (id : String) (b : Body Float) : Row where
  id := id
  plain := { b with color := none }
  red := b.color.map Color.red
  green := b.color.map Color.green
  blue := b.color.map Color.blue

theorem entry_rowOf (id : String) (b : Body Float) : (rowOf id b).entry = .ok (id, b) := by
  obtain ⟨mass, periapsis, speed, orientation, radius, color⟩ := b
  cases color <;> rfl

/-- Cells that describe an entry make its row. -/
theorem Describe.ofTexts_eq (h : Describe cells id b) {heading : Heading} {texts : List (List Char)}
    (read : readCells [] (heading.assign texts) = .ok cells) :
    Row.ofTexts heading texts = .ok (rowOf id b) := by
  unfold Row.ofTexts
  rw [read]
  have number := h.numberOf_eq heading texts.length
  show (idOf heading texts.length cells >>= _) = _
  rw [h.idOf_eq heading texts.length]
  simp only [bind, Except.bind, number .mass rfl, number .periapsis rfl,
    number .speed rfl, number .argument rfl,
    number .inclination rfl, number .ascendingNode rfl,
    h.optionalOf_eq .radius rfl, h.optionalOf_eq .red rfl,
    h.optionalOf_eq .green rfl, h.optionalOf_eq .blue rfl]
  rfl

end Describe

end TableFile

end Periapsis
