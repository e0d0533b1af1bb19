import Mathlib.Data.List.Forall2
import Periapsis.Csv.Reader
import Periapsis.Csv.Writer
import Periapsis.Proofs.Text.Utf8

/-!
# Layouts of comma-separated files

Which texts hold which records (`Lines`), whatever the line ends, the quotes and
the empty lines, and that the reader finds them there:

* `feed_lines`: a reader between two records reads on over a text and has read
  the records that it holds, wherever it came from;
* `fields_records`: from the bytes of a text, with or without a byte order mark,
  the records of the text are read;
* `lines_write`: what is written holds the records that were to be written.

Where a record began counts for messages only, so a reader is looked at without
it (`Reader.Stands`).
-/

namespace Periapsis.Csv

open Utf8 (encode)

/-! ## Texts of records -/

/-- A value as it stands in a text, with or without quotes around it. -/
inductive Laid : List Char → List Char → Prop where
  | bare {value : List Char} : (∀ c ∈ value, isSpecial c = false) → Laid value value
  | quoted (value : List Char) : Laid value ('"' :: doubleQuotes value ++ ['"'])

/-- The values of a record, with commas between them. -/
inductive Line : List (List Char) → List Char → Prop where
  | single {value text : List Char} : Laid value text → Line [value] text
  | cons {value text : List Char} {values : List (List Char)} {rest : List Char} :
    Laid value text → Line values rest → Line (value :: values) (text ++ ',' :: rest)

def lineEnds : List (List Char) :=
  [['\n'], ['\r'], ['\r', '\n']]

/-- The records of a text. A line with nothing on it is none, and the last one
needs no end. -/
inductive Lines : List (List (List Char)) → List Char → Prop where
  | nil : Lines [] []
  | blank {rows : List (List (List Char))} {lineEnd rest : List Char} :
    lineEnd ∈ lineEnds → Lines rows rest → Lines rows (lineEnd ++ rest)
  | ended {values : List (List Char)} {text lineEnd : List Char} {rows : List (List (List Char))}
    {rest : List Char} : Line values text → text ≠ [] → lineEnd ∈ lineEnds → Lines rows rest →
    Lines (values :: rows) (text ++ lineEnd ++ rest)
  | unended {values : List (List Char)} {text : List Char} : Line values text → text ≠ [] →
    Lines [values] text

/-- A text without the byte order mark that it may start with. -/
def withoutMark : List Char → List Char
  | '\uFEFF' :: text => text
  | text => text

theorem laid_iff (value text : List Char) :
    Laid value text ↔
      value.any isSpecial = false ∧ text = value ∨ text = '"' :: doubleQuotes value ++ ['"'] := by
  simp only [List.any_eq_false, Bool.not_eq_true]
  constructor
  · rintro (plain | _)
    · exact .inl ⟨plain, rfl⟩
    · exact .inr rfl
  · rintro (⟨plain, rfl⟩ | rfl)
    · exact .bare plain
    · exact .quoted value

instance (value text : List Char) : Decidable (Laid value text) :=
  decidable_of_iff _ (laid_iff value text).symm

/-- Texts that values stand in make a line of these values. -/
theorem line_intercalate {values texts : List (List Char)} (laid : List.Forall₂ Laid values texts)
    (nonempty : values ≠ []) : Line values ([','].intercalate texts) := by
  induction laid with
  | nil => exact absurd rfl nonempty
  | cons first rest ih =>
    cases rest with
    | nil =>
      rw [List.intercalate_singleton]
      exact .single first
    | cons =>
      rw [List.intercalate_cons_cons, List.append_assoc]
      exact .cons first (ih (List.cons_ne_nil _ _))

theorem Line.ne_nil {values : List (List Char)} {text : List Char} (h : Line values text)
    (many : 2 ≤ values.length) : text ≠ [] := by
  cases h with
  | single => exact absurd many (Nat.not_succ_le_self 1)
  | cons => exact List.append_ne_nil_of_right_ne_nil _ (List.cons_ne_nil ',' _)

/-! ## Bytes -/

/-- A byte without a meaning of its own. -/
def Plain (b : UInt8) : Prop :=
  b ≠ comma ∧ b ≠ doubleQuote ∧ isLineEnd b = false

theorem ne_of_mem_encodeChar {c d : Char} {b : UInt8} (hb : b ∈ String.utf8EncodeChar c)
    (h : c ≠ d) (small : d.toNat < 0x80) : b ≠ UInt8.ofNat d.toNat := by
  rintro rfl
  have value : (UInt8.ofNat d.toNat).toNat = d.toNat := by rw [UInt8.toNat_ofNat']; omega
  obtain ⟨same, -⟩ := Utf8.eq_of_mem_encodeChar hb (value.symm ▸ small)
  rw [value, Char.ofNat_toNat] at same
  exact h same

theorem plain_of_mem_encode {text : List Char} (h : ∀ c ∈ text, isSpecial c = false) :
    ∀ b ∈ encode text, Plain b := by
  intro b hb
  obtain ⟨c, hc, hb⟩ := Utf8.mem_encode.1 hb
  have special := h c hc
  simp only [isSpecial, Bool.or_eq_false_iff, beq_eq_false_iff_ne] at special
  obtain ⟨⟨⟨noComma, noQuote⟩, noLineFeed⟩, noReturn⟩ := special
  refine ⟨ne_of_mem_encodeChar hb noComma (by decide), ne_of_mem_encodeChar hb noQuote (by decide),
    ?_⟩
  rw [isLineEnd, Bool.or_eq_false_iff, beq_eq_false_iff_ne, beq_eq_false_iff_ne]
  exact ⟨ne_of_mem_encodeChar hb noLineFeed (by decide),
    ne_of_mem_encodeChar hb noReturn (by decide)⟩

theorem encode_cell (text rest : List Char) :
    encode (text ++ ',' :: rest) = encode text ++ comma :: encode rest := by
  rw [Utf8.encode_append, Utf8.encode_cons, Utf8.encodeChar_ascii (by decide)]
  rfl

theorem encode_quoted (value : List Char) :
    encode ('"' :: doubleQuotes value ++ ['"']) =
      doubleQuote :: (encode (doubleQuotes value) ++ [doubleQuote]) := by
  rw [List.cons_append, Utf8.encode_cons, Utf8.encode_append, Utf8.encodeChar_ascii (by decide)]
  rfl

/-! ## Steps of a reader -/

namespace Reader

/-- What a reader has read and where it stands, wherever its records began:
the field and the fields of the record that is being read, and those of the
records before it. -/
structure Stands (r : Reader) (place : Place) (field : List UInt8) (fields : List (List UInt8))
    (rows : List (List (List UInt8))) : Prop where
  place : r.place = place
  field : r.field.reverse = field
  fields : r.fields.reverse = fields
  rows : r.records.reverse.map Record.fields = rows

variable {r : Reader} {place : Place} {field : List UInt8} {fields : List (List UInt8)}
  {rows : List (List (List UInt8))} {b : UInt8}

theorem stands_initial (byte : Nat) : (initial byte).Stands .outside [] [] [] :=
  ⟨rfl, rfl, rfl, rfl⟩

theorem Stands.push (h : r.Stands place field fields rows) (b : UInt8) (next : Place) :
    (r.push b next).Stands next (field ++ [b]) fields rows :=
  ⟨rfl, by rw [← h.field]; exact List.reverse_cons, h.fields, h.rows⟩

theorem Stands.endField (h : r.Stands place field fields rows) :
    r.endField.Stands .fieldStart [] (fields ++ [field]) rows :=
  ⟨rfl, rfl, by rw [← h.field, ← h.fields]; exact List.reverse_cons, h.rows⟩

theorem Stands.map_recordsSoFar (h : r.Stands place field fields rows) :
    r.recordsSoFar.reverse.map Record.fields = rows ++ [fields ++ [field]] := by
  rw [recordsSoFar, List.reverse_cons, List.map_append, h.rows, List.map_singleton,
    List.reverse_cons, h.field, h.fields]

theorem Stands.endRecord (h : r.Stands place field fields rows) :
    r.endRecord.Stands .outside [] [] (rows ++ [fields ++ [field]]) :=
  ⟨rfl, rfl, rfl, h.map_recordsSoFar⟩

theorem Stands.count (h : r.Stands place field fields rows) (b : UInt8) :
    (r.count b).Stands place field fields rows :=
  ⟨h.place, h.field, h.fields, h.rows⟩

theorem Stands.move (h : r.Stands place field fields rows) (next : Place) :
    ({ r with place := next } : Reader).Stands next field fields rows :=
  ⟨rfl, h.field, h.fields, h.rows⟩

/-- Outside quotes a byte is one of a field without them. Only a line end in
front of a record is none. -/
theorem step_eq_bareByte (unquoted : r.place ≠ .quoted) (noQuote : b ≠ doubleQuote)
    (begun : r.place = .outside → isLineEnd b = false) :
    r.step b = (r.count b).bareByte b := by
  have noQuote : (b == doubleQuote) = false := beq_eq_false_iff_ne.2 noQuote
  have place : (r.count b).place = r.place := rfl
  unfold step
  cases hp : r.place with
  | outside => simp only [place, hp, begun hp, noQuote]; rfl
  | quoted => exact absurd hp unquoted
  | fieldStart | quote => simp only [place, hp, noQuote]; rfl
  | bare => simp only [place, hp]

theorem Stands.step_plain (h : r.Stands place field fields rows) (unquoted : place ≠ .quoted)
    (plain : Plain b) : (r.step b).Stands .bare (field ++ [b]) fields rows := by
  obtain ⟨noComma, noQuote, noLineEnd⟩ := plain
  rw [step_eq_bareByte (h.place ▸ unquoted) noQuote fun _ => noLineEnd, bareByte,
    if_neg (by simpa using noComma), if_neg (by simpa using noLineEnd)]
  exact (h.count b).push b .bare

theorem Stands.step_comma (h : r.Stands place field fields rows) (unquoted : place ≠ .quoted) :
    (r.step comma).Stands .fieldStart [] (fields ++ [field]) rows := by
  rw [step_eq_bareByte (h.place ▸ unquoted) (by decide) fun _ => by decide, bareByte,
    if_pos (by decide)]
  exact (h.count comma).endField

theorem Stands.step_lineEnd (h : r.Stands place field fields rows) (unquoted : place ≠ .quoted)
    (begun : place ≠ .outside) (lineEnd : isLineEnd b = true) :
    (r.step b).Stands .outside [] [] (rows ++ [fields ++ [field]]) := by
  have noComma : (b == comma) = false ∧ b ≠ doubleQuote := by
    simp only [isLineEnd, Bool.or_eq_true, beq_iff_eq] at lineEnd
    rcases lineEnd with rfl | rfl <;> decide
  have inside : r.place ≠ .outside := h.place ▸ begun
  rw [step_eq_bareByte (h.place ▸ unquoted) noComma.2 fun outside => absurd outside inside, bareByte,
    noComma.1, if_neg (by decide), if_pos lineEnd]
  exact (h.count b).endRecord

theorem Stands.step_outside (h : r.Stands .outside field fields rows) (lineEnd : isLineEnd b = true) :
    (r.step b).Stands .outside field fields rows := by
  unfold step
  simp only [(h.count b).place, if_pos lineEnd]
  exact h.count b

theorem Stands.step_opening (h : r.Stands place field fields rows)
    (start : place = .outside ∨ place = .fieldStart) :
    (r.step doubleQuote).Stands .quoted field fields rows := by
  unfold step
  rcases start with rfl | rfl <;> simp only [(h.count doubleQuote).place]
  · rw [if_neg (by decide), if_pos (by decide)]
    exact (h.count _).move .quoted
  · rw [if_pos (by decide)]
    exact (h.count _).move .quoted

theorem Stands.step_inside (h : r.Stands .quoted field fields rows) (noQuote : b ≠ doubleQuote) :
    (r.step b).Stands .quoted (field ++ [b]) fields rows := by
  unfold step
  simp only [(h.count b).place, beq_eq_false_iff_ne.2 noQuote]
  exact (h.count b).push b .quoted

theorem Stands.step_quote (h : r.Stands .quoted field fields rows) :
    (r.step doubleQuote).Stands .quote field fields rows := by
  unfold step
  simp only [(h.count doubleQuote).place, beq_self_eq_true, if_true]
  exact (h.count _).move .quote

theorem Stands.step_secondQuote (h : r.Stands .quote field fields rows) :
    (r.step doubleQuote).Stands .quoted (field ++ [doubleQuote]) fields rows := by
  unfold step
  simp only [(h.count doubleQuote).place, beq_self_eq_true, if_true]
  exact (h.count _).push _ .quoted

/-! ## Texts -/

theorem feed_cons (r : Reader) (b : UInt8) (bytes : List UInt8) :
    r.feed (b :: bytes) = (r.step b).feed bytes :=
  rfl

theorem Stands.feed_plain {bytes : List UInt8} (h : r.Stands place field fields rows)
    (unquoted : place ≠ .quoted) (plain : ∀ b ∈ bytes, Plain b) :
    (r.feed bytes).Stands (if bytes = [] then place else .bare) (field ++ bytes) fields rows := by
  induction bytes generalizing r place field with
  | nil => rw [if_pos rfl, List.append_nil]; exact h
  | cons b bytes ih =>
    obtain ⟨first, rest⟩ := List.forall_mem_cons.1 plain
    have fed := ih (h.step_plain unquoted first) (by decide) rest
    rw [ite_self, List.append_assoc] at fed
    rw [if_neg (List.cons_ne_nil b bytes), feed_cons]
    exact fed

theorem Stands.feed_inside {bytes : List UInt8} (h : r.Stands .quoted field fields rows)
    (noQuote : ∀ b ∈ bytes, b ≠ doubleQuote) :
    (r.feed bytes).Stands .quoted (field ++ bytes) fields rows := by
  induction bytes generalizing r field with
  | nil => rw [List.append_nil]; exact h
  | cons b bytes ih =>
    obtain ⟨first, rest⟩ := List.forall_mem_cons.1 noQuote
    rw [List.append_cons]
    exact ih (h.step_inside first) rest

/-- Between quotes a value is read back from its characters with the quotes
among them doubled. -/
theorem Stands.feed_doubleQuotes (h : r.Stands .quoted field fields rows) (value : List Char) :
    (r.feed (encode (doubleQuotes value))).Stands .quoted (field ++ encode value) fields rows := by
  induction value generalizing r field with
  | nil => rw [show encode [] = [] from rfl, List.append_nil]; exact h
  | cons c value ih =>
    rw [Utf8.encode_cons c value, ← List.append_assoc, doubleQuotes]
    split
    · rename_i quote
      subst quote
      exact ih h.step_quote.step_secondQuote
    · rename_i noQuote
      rw [Utf8.encode_cons, feed_append]
      exact ih (h.feed_inside fun b hb => ne_of_mem_encodeChar hb noQuote (by decide))

/-- A value is read from the text that it stands in. Behind it the reader is
within the record, except for an empty text in front of one. -/
theorem Stands.feed_laid {value text : List Char} (h : r.Stands place [] fields rows)
    (start : place = .outside ∨ place = .fieldStart) (laid : Laid value text) :
    ∃ next, (r.feed (encode text)).Stands next (encode value) fields rows ∧ next ≠ .quoted ∧
      (next = .outside → place = .outside ∧ text = []) := by
  cases laid with
  | bare plain =>
    -- The value is its own text.
    have unquoted : place ≠ .quoted := by rcases start with rfl | rfl <;> decide
    refine ⟨_, h.feed_plain unquoted (plain_of_mem_encode plain), ?_, ?_⟩
    · split
      · exact unquoted
      · decide
    · split
      · rename_i empty
        exact fun outside => ⟨outside, (Utf8.encode_eq_nil_iff value).1 empty⟩
      · exact nofun
  | quoted =>
    refine ⟨.quote, ?_, by decide, nofun⟩
    rw [encode_quoted, feed_cons, feed_append]
    exact ((h.step_opening start).feed_doubleQuotes value).step_quote

/-- A record has begun; if it ended here, it would have these fields. -/
def Holds (r : Reader) (fields : List (List UInt8)) (rows : List (List (List UInt8))) : Prop :=
  ∃ place field before, r.Stands place field before rows ∧ place ≠ .outside ∧ place ≠ .quoted ∧
    before ++ [field] = fields

theorem Holds.step_lineEnd (h : r.Holds fields rows) (lineEnd : isLineEnd b = true) :
    (r.step b).Stands .outside [] [] (rows ++ [fields]) := by
  obtain ⟨place, field, before, h, begun, unquoted, rfl⟩ := h
  exact h.step_lineEnd unquoted begun lineEnd

theorem Stands.finish_outside (h : r.Stands .outside field fields rows) :
    r.finish.map Record.fields = rows := by
  rw [finish, if_pos h.place, h.rows]

theorem Holds.finish (h : r.Holds fields rows) :
    r.finish.map Record.fields = rows ++ [fields] := by
  obtain ⟨place, field, before, h, begun, -, rfl⟩ := h
  rw [Reader.finish, if_neg (h.place ▸ begun), h.map_recordsSoFar]

/-- The values of a line become the fields behind those that were read before. -/
theorem Stands.feed_line {values : List (List Char)} {text : List Char} (line : Line values text)
    (h : r.Stands place [] fields rows) (start : place = .outside ∨ place = .fieldStart)
    (begun : place = .outside → text ≠ []) :
    (r.feed (encode text)).Holds (fields ++ values.map encode) rows := by
  induction line generalizing r place fields with
  | single laid =>
    obtain ⟨next, fed, unquoted, outside⟩ := h.feed_laid start laid
    exact ⟨next, _, fields, fed, fun here => begun (outside here).1 (outside here).2, unquoted, rfl⟩
  | @cons value text values rest laid _ ih =>
    obtain ⟨next, fed, unquoted, -⟩ := h.feed_laid start laid
    rw [encode_cell, feed_append, feed_cons, List.map_cons, List.append_cons]
    exact ih (fed.step_comma unquoted) (.inr rfl) nofun

theorem Stands.feed_blank {lineEnd : List Char} (h : r.Stands .outside field fields rows)
    (he : lineEnd ∈ lineEnds) : (r.feed (encode lineEnd)).Stands .outside field fields rows := by
  simp only [lineEnds, List.mem_cons, List.not_mem_nil, or_false] at he
  rcases he with rfl | rfl | rfl
  · exact h.step_outside (b := lineFeed) rfl
  · exact h.step_outside (b := carriageReturn) rfl
  · exact (h.step_outside (b := carriageReturn) rfl).step_outside (b := lineFeed) rfl

theorem Holds.feed_lineEnd {lineEnd : List Char} (h : r.Holds fields rows)
    (he : lineEnd ∈ lineEnds) :
    (r.feed (encode lineEnd)).Stands .outside [] [] (rows ++ [fields]) := by
  simp only [lineEnds, List.mem_cons, List.not_mem_nil, or_false] at he
  rcases he with rfl | rfl | rfl
  · exact h.step_lineEnd (b := lineFeed) rfl
  · exact h.step_lineEnd (b := carriageReturn) rfl
  · exact (h.step_lineEnd (b := carriageReturn) rfl).step_outside (b := lineFeed) rfl

/-- Between two records, the records of a text come behind those that were read before. -/
theorem feed_lines {values : List (List (List Char))} {text : List Char} (lines : Lines values text)
    (h : r.Stands .outside [] [] rows) :
    (r.feed (encode text)).finish.map Record.fields = rows ++ values.map (·.map encode) := by
  induction lines generalizing r rows with
  | nil => rw [List.map_nil, List.append_nil]; exact h.finish_outside
  | blank he _ ih => rw [Utf8.encode_append, feed_append]; exact ih (h.feed_blank he)
  | ended line begun he _ ih =>
    rw [List.append_assoc, Utf8.encode_append, Utf8.encode_append, feed_append, feed_append,
      List.map_cons, List.append_cons]
    exact ih ((Stands.feed_line line h (.inl rfl) fun _ => begun).feed_lineEnd he)
  | unended line begun => exact (Stands.feed_line line h (.inl rfl) fun _ => begun).finish

end Reader

/-! ## Files -/

/-- A file is read behind its byte order mark. -/
theorem exists_records_encode (text : List Char) :
    ∃ byte, records (encode text) =
      ((Reader.initial byte).feed (encode (withoutMark text))).finish := by
  unfold records Reader.behind
  split
  · rename_i rest marked
    obtain ⟨text, rfl⟩ := Utf8.eq_of_encode_mark marked
    have same : rest = encode text := by
      have whole : [0xEF, 0xBB, 0xBF] ++ encode text = [0xEF, 0xBB, 0xBF] ++ rest := marked
      exact (List.append_cancel_left whole).symm
    exact ⟨3, by rw [same, withoutMark]⟩
  · rename_i unmarked
    refine ⟨0, ?_⟩
    unfold withoutMark
    split
    · rename_i text
      exact absurd (Utf8.encode_cons '\uFEFF' text) (unmarked _)
    · rfl

/-- The records of a text are read from its bytes. -/
theorem fields_records {rows : List (List (List Char))} {text : List Char}
    (h : Lines rows (withoutMark text)) :
    (records (encode text)).map Record.fields = rows.map (·.map encode) := by
  obtain ⟨byte, read⟩ := exists_records_encode text
  rw [read, Reader.feed_lines h (Reader.stands_initial byte), List.nil_append]

/-! ## Written files -/

theorem laid_writeField (text : List Char) : Laid text (writeField text) := by
  unfold writeField
  split
  · exact .quoted text
  · rename_i plain
    exact .bare (by simpa using plain)

/-- What is written holds the records that were to be written. -/
theorem lines_write {rows : List (List (List Char))} (h : ∀ values ∈ rows, 2 ≤ values.length) :
    Lines rows (write rows) := by
  induction rows with
  | nil => exact .nil
  | cons values rows ih =>
    obtain ⟨many, rest⟩ := List.forall_mem_cons.1 h
    have laid : List.Forall₂ Laid values (values.map writeField) :=
      List.forall₂_map_right_iff.2 (List.forall₂_same.2 fun text _ => laid_writeField text)
    have line := line_intercalate laid (List.ne_nil_of_length_pos (by omega))
    have lineEnd : ['\n'] ∈ lineEnds := by decide
    exact .ended line (line.ne_nil many) lineEnd (ih rest)

end Periapsis.Csv
