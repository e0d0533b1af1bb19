import Periapsis.Proofs.Csv.Lines

/-!
# Records of bytes

Where the records of a file lie in its bytes.

* `ended_prefix`: what has ended in the first bytes of a file is there whatever
  comes behind them, and where these end in a line of their own (`EndsLine`) it
  is all that they hold (`records_eq_ended`);
* `map_fields_records`: the records are those of the pieces between the line
  ends outside quotes, less the empty pieces. What is read of a piece depends on
  nothing before it but for its position.

Where a reader stands can be told without it (`Place.next`), and so can the
pieces.
-/

namespace Periapsis.Csv

/-! ## Records that end -/

theorem Reader.suffix_bareByte (r : Reader) (b : UInt8) : r.records <:+ (r.bareByte b).records := by
  unfold bareByte
  split
  · exact List.suffix_refl _
  · split
    · exact List.suffix_cons _ _
    · exact List.suffix_refl _

/-- A reader keeps the records that it has read. -/
theorem Reader.suffix_step (r : Reader) (b : UInt8) : r.records <:+ (r.step b).records := by
  have same : r.records <:+ (r.count b).records := List.suffix_refl _
  have bare : r.records <:+ ((r.count b).bareByte b).records := same.trans (suffix_bareByte _ b)
  unfold step
  dsimp only
  split
  · split
    · exact same
    · split
      · exact same
      · exact bare
  · split
    · exact same
    · exact bare
  · exact bare
  · split <;> exact same
  · split
    · exact same
    · exact bare

theorem Reader.suffix_feed (r : Reader) (bytes : List UInt8) :
    r.records <:+ (r.feed bytes).records := by
  induction bytes generalizing r with
  | nil => exact List.suffix_refl _
  | cons b bytes ih => exact (r.suffix_step b).trans (ih (r.step b))

theorem Reader.reverse_prefix_finish (r : Reader) : r.records.reverse <+: r.finish := by
  unfold finish
  rw [List.reverse_prefix]
  split
  · exact List.suffix_refl _
  · exact List.suffix_cons _ _

/-- A file begins with the records that end in its first bytes. -/
theorem ended_prefix (bytes rest : List UInt8) : ended bytes <+: records (bytes ++ rest) := by
  have fed (r : Reader) (bytes : List UInt8) :
      (r.feed bytes).records.reverse <+: (r.feed (bytes ++ rest)).finish := by
    rw [Reader.feed_append]
    refine List.IsPrefix.trans ?_ (Reader.reverse_prefix_finish _)
    exact List.reverse_prefix.2 ((r.feed bytes).suffix_feed rest)
  unfold ended records Reader.behind
  split
  · rw [List.cons_append, List.cons_append, List.cons_append]
    exact fed _ _
  · rename_i unmarked
    split
    · rename_i marked
      -- Less than a byte order mark ends no record.
      rcases bytes with _ | ⟨a, _ | ⟨b, _ | ⟨c, bytes⟩⟩⟩
      · exact List.nil_prefix
      · obtain ⟨rfl, -⟩ := List.cons.inj marked
        exact List.nil_prefix
      · simp only [List.cons_append, List.cons.injEq] at marked
        obtain ⟨rfl, rfl, -⟩ := marked
        exact List.nil_prefix
      · simp only [List.cons_append, List.cons.injEq] at marked
        obtain ⟨rfl, rfl, rfl, -⟩ := marked
        exact absurd rfl (unmarked bytes)
    · exact fed _ _

/-! ## Where a reader stands -/

/-- Where a byte leads from a place. -/
def Place.next (place : Place) (b : UInt8) : Place :=
  if place = .quoted then
    if b == doubleQuote then .quote else .quoted
  else if isLineEnd b then .outside
  else if b == doubleQuote && place != .bare then .quoted
  else if b == comma then .fieldStart
  else .bare

/-- The byte order mark of UTF-8. -/
def mark : List UInt8 :=
  [0xEF, 0xBB, 0xBF]

/-- Bytes without the byte order mark that they may start with. -/
def unmarked (bytes : List UInt8) : List UInt8 :=
  if mark <+: bytes then bytes.drop mark.length else bytes

/-- Where the bytes that a file starts with lead. -/
def placeBehind (bytes : List UInt8) : Place :=
  (unmarked bytes).foldl Place.next .outside

/-- The last byte is a line feed, and it stands outside quotes. -/
def EndsLine (bytes : List UInt8) : Prop :=
  ∃ before, bytes = before ++ [lineFeed] ∧ placeBehind before ≠ .quoted

namespace Reader

variable {r : Reader} {place : Place} {field : List UInt8} {fields : List (List UInt8)}
  {rows : List (List (List UInt8))} {b : UInt8}

theorem stands_self (r : Reader) :
    r.Stands r.place r.field.reverse r.fields.reverse (r.records.reverse.map Record.fields) :=
  ⟨rfl, rfl, rfl, rfl⟩

/-- Where a field has begun without one, a quote is a byte like others. -/
theorem Stands.step_bareQuote (h : r.Stands .bare field fields rows) :
    (r.step doubleQuote).Stands .bare (field ++ [doubleQuote]) fields rows := by
  unfold step
  simp only [(h.count doubleQuote).place]
  exact (h.count _).push _ .bare

/-- A byte that ends no record adds to the one that is being read, in a way that
depends on nothing else. -/
theorem exists_stands_step (place : Place) (field : List UInt8) (fields : List (List UInt8))
    (inside : ¬ (place ≠ .quoted ∧ isLineEnd b = true)) :
    ∃ field' fields', ∀ r rows, Reader.Stands r place field fields rows →
      (r.step b).Stands (place.next b) field' fields' rows := by
  by_cases quoted : place = .quoted
  · subst quoted
    by_cases quote : b = doubleQuote
    · subst quote
      exact ⟨_, _, fun r rows h => h.step_quote⟩
    · have next : Place.next .quoted b = .quoted := by simp [Place.next, quote]
      exact ⟨_, _, fun r rows h => next ▸ h.step_inside quote⟩
  have noLineEnd : isLineEnd b = false := by simpa [quoted] using inside
  by_cases quote : b = doubleQuote
  · subst quote
    cases place with
    | outside => exact ⟨_, _, fun r rows h => h.step_opening (.inl rfl)⟩
    | fieldStart => exact ⟨_, _, fun r rows h => h.step_opening (.inr rfl)⟩
    | bare => exact ⟨_, _, fun r rows h => h.step_bareQuote⟩
    | quoted => exact absurd rfl quoted
    | quote => exact ⟨_, _, fun r rows h => h.step_secondQuote⟩
  by_cases separator : b = comma
  · subst separator
    have next : place.next comma = .fieldStart := by simp [Place.next, quoted, noLineEnd, quote]
    exact ⟨_, _, fun r rows h => next ▸ h.step_comma quoted⟩
  · have next : place.next b = .bare := by simp [Place.next, quoted, noLineEnd, quote, separator]
    exact ⟨_, _, fun r rows h => next ▸ h.step_plain quoted ⟨separator, quote, noLineEnd⟩⟩

theorem feed_concat (r : Reader) (bytes : List UInt8) (b : UInt8) :
    r.feed (bytes ++ [b]) = (r.feed bytes).step b :=
  feed_append ..

theorem place_step (r : Reader) (b : UInt8) : (r.step b).place = r.place.next b := by
  by_cases ends : r.place ≠ .quoted ∧ isLineEnd b = true
  · have next : r.place.next b = .outside := by simp [Place.next, ends]
    rw [next]
    by_cases outside : r.place = .outside
    · exact ((outside ▸ r.stands_self).step_outside ends.2).place
    · exact (r.stands_self.step_lineEnd ends.1 outside ends.2).place
  · obtain ⟨_, _, stands⟩ := exists_stands_step r.place _ _ ends
    exact (stands r _ r.stands_self).place

theorem place_feed (r : Reader) (bytes : List UInt8) :
    (r.feed bytes).place = bytes.foldl Place.next r.place := by
  induction bytes generalizing r with
  | nil => rfl
  | cons b bytes ih => rw [feed_cons, ih, place_step, List.foldl_cons]

end Reader

/-- A file is read behind its byte order mark. -/
theorem exists_behind (bytes : List UInt8) :
    ∃ byte, Reader.behind bytes = (Reader.initial byte).feed (unmarked bytes) := by
  unfold Reader.behind
  split
  · rename_i rest
    have marked : mark <+: 0xEF :: 0xBB :: 0xBF :: rest := List.prefix_append mark rest
    rw [unmarked, if_pos marked]
    exact ⟨3, rfl⟩
  · rename_i plain
    rw [unmarked, if_neg]
    · exact ⟨0, rfl⟩
    · rintro ⟨rest, rfl⟩
      exact plain rest rfl

theorem place_behind (bytes : List UInt8) : (Reader.behind bytes).place = placeBehind bytes := by
  obtain ⟨byte, read⟩ := exists_behind bytes
  rw [read, Reader.place_feed]
  rfl

/-- A byte order mark does not end in a line feed. -/
theorem unmarked_lineFeed (before : List UInt8) :
    unmarked (before ++ [lineFeed]) = unmarked before ++ [lineFeed] := by
  have last : mark ≠ before ++ [lineFeed] := by
    intro same
    have ends := congrArg List.getLast? same
    rw [List.getLast?_concat] at ends
    exact absurd ends (by decide)
  have starts : mark <+: before ++ [lineFeed] ↔ mark <+: before := by
    rw [List.prefix_concat_iff, or_iff_right last]
  unfold unmarked
  simp only [starts]
  split
  · rename_i marked
    exact List.drop_append_of_le_length marked.length_le
  · rfl

/-- Where the first bytes of a file end in a line of their own, all the records
that they hold have ended. -/
theorem records_eq_ended {bytes : List UInt8} (h : EndsLine bytes) :
    records bytes = ended bytes := by
  obtain ⟨before, rfl, unquoted⟩ := h
  have outside : placeBehind (before ++ [lineFeed]) = .outside := by
    rw [placeBehind, unmarked_lineFeed, List.foldl_append]
    exact if_neg unquoted
  rw [records, Reader.finish, place_behind, if_pos outside]
  rfl

/-! ## Pieces -/

/-- What stands between line ends outside quotes, with the part of the first
piece that was read before. -/
def piecesFrom (place : Place) (piece : List UInt8) : List UInt8 → List (List UInt8)
  | [] => [piece]
  | b :: rest =>
    if place ≠ .quoted ∧ isLineEnd b = true then piece :: piecesFrom .outside [] rest
    else piecesFrom (place.next b) (piece ++ [b]) rest

/-- What stands between the line ends of a file, other than those in quotes. -/
def pieces (bytes : List UInt8) : List (List UInt8) :=
  piecesFrom .outside [] (unmarked bytes)

/-- The record that a piece is by itself. -/
def recordOf (piece : List UInt8) : Record :=
  let r := (Reader.initial 0).feed piece
  ⟨r.start, (r.field.reverse :: r.fields).reverse⟩

section

open Reader

variable {piece : List UInt8} {r : Reader} {place : Place} {field : List UInt8}
  {fields : List (List UInt8)} {rows : List (List (List UInt8))}

theorem stands_nothing : ((initial 0).feed []).Stands .outside [] [] [] :=
  stands_initial 0

theorem fields_recordOf (alone : ((initial 0).feed piece).Stands place field fields []) :
    (recordOf piece).fields = fields ++ [field] := by
  rw [recordOf, List.reverse_cons, alone.fields, alone.field]

theorem Place.next_ne_outside {b : UInt8} (inside : ¬ (place ≠ .quoted ∧ isLineEnd b = true)) :
    place.next b ≠ .outside := by
  unfold next
  grind

/-- A reader that stands in a piece as if it had started there goes on with the
records of the pieces that are not empty. -/
theorem map_fields_feed (alone : ((initial 0).feed piece).Stands place field fields [])
    (begun : place = .outside ↔ piece = []) (h : r.Stands place field fields rows)
    (bytes : List UInt8) : (r.feed bytes).finish.map Record.fields = rows ++
      ((piecesFrom place piece bytes).filter (· ≠ [])).map fun p => (recordOf p).fields := by
  induction bytes generalizing piece r place field fields rows with
  | nil =>
    show r.finish.map Record.fields = _
    rw [piecesFrom]
    by_cases empty : piece = []
    · obtain rfl := begun.2 empty
      rw [h.finish_outside, List.filter_cons_of_neg (by simpa using empty), List.filter_nil,
        List.map_nil, List.append_nil]
    · rw [finish, if_neg (h.place ▸ mt begun.1 empty), h.map_recordsSoFar,
        List.filter_cons_of_pos (by simpa using empty), List.filter_nil, List.map_singleton,
        fields_recordOf alone]
  | cons b bytes ih =>
    rw [piecesFrom, feed_cons]
    split
    · rename_i ends
      by_cases empty : piece = []
      · obtain rfl := begun.2 empty
        subst empty
        obtain ⟨rfl, rfl⟩ : field = [] ∧ fields = [] := ⟨alone.field.symm, alone.fields.symm⟩
        rw [ih stands_nothing (by simp) (h.step_outside ends.2)]
        rfl
      · have here : place ≠ .outside := mt begun.1 empty
        rw [ih stands_nothing (by simp) (h.step_lineEnd ends.1 here ends.2),
          List.filter_cons_of_pos (by simpa using empty), List.map_cons, fields_recordOf alone,
          List.append_assoc, List.singleton_append]
    · rename_i inside
      obtain ⟨field', fields', stands⟩ := exists_stands_step place field fields inside
      refine ih (feed_concat _ piece b ▸ stands _ _ alone) ?_ (stands _ _ h)
      simp [Place.next_ne_outside inside]

end

/-- The records of a file are those of its pieces that are not empty. -/
theorem map_fields_records (bytes : List UInt8) :
    (records bytes).map Record.fields =
      ((pieces bytes).filter (· ≠ [])).map fun piece => (recordOf piece).fields := by
  obtain ⟨byte, read⟩ := exists_behind bytes
  rw [records, read, map_fields_feed stands_nothing (by simp) (Reader.stands_initial byte),
    List.nil_append]
  rfl

end Periapsis.Csv
