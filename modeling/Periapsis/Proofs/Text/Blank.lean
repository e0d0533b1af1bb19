import Mathlib.Data.List.DropRight
import Periapsis.Proofs.Text.Utf8
import Periapsis.Text.Blank

/-!
# Texts without blanks at their ends

`trim` drops the blanks around a text and nothing else (`trim_append_append`);
it leaves a text alone exactly when that has no blanks at its ends
(`trim_eq_self_iff`). Nothing is lost when blanks of ASCII are dropped from the
bytes of a text before it is trimmed (`exists_decode_dropWhile`), and nothing
becomes a text by that (`exists_decode_of_dropWhile`).
-/

namespace Periapsis.Text

/-- Without blanks at its ends. -/
def Trimmed (text : List Char) : Prop :=
  (∀ c, text.head? = some c → isBlank c = false) ∧
    ∀ c, text.getLast? = some c → isBlank c = false

theorem trim_eq_rdropWhile (text : List Char) :
    trim text = (text.dropWhile isBlank).rdropWhile isBlank :=
  rfl

theorem trimmed_trim (text : List Char) : Trimmed (trim text) := by
  constructor
  · intro c hc
    -- What is left when the end is cut off starts as the text did.
    obtain ⟨cut, hcut⟩ := List.rdropWhile_prefix isBlank (text.dropWhile isBlank)
    have first : (text.dropWhile isBlank).head? = some c := by
      rw [← hcut, List.head?_append, ← trim_eq_rdropWhile, hc]
      rfl
    have := List.head?_dropWhile_not isBlank text
    rwa [first] at this
  · intro c hc
    have := List.head?_dropWhile_not isBlank (text.dropWhile isBlank).reverse
    rw [trim, List.getLast?_reverse] at hc
    rwa [hc] at this

theorem trim_eq_self_iff (text : List Char) : trim text = text ↔ Trimmed text := by
  constructor
  · intro h
    rw [← h]
    exact trimmed_trim text
  · rintro ⟨first, last⟩
    have noFirst : text.dropWhile isBlank = text :=
      List.dropWhile_eq_self_iff.2 fun _ => by
        rw [first _ (List.head?_eq_getElem? .. ▸ List.getElem?_eq_getElem ..)]; decide
    rw [trim_eq_rdropWhile, noFirst, List.rdropWhile_eq_self_iff]
    intro h
    rw [last _ (List.getLast?_eq_some_getLast h)]
    decide

theorem trim_trim (text : List Char) : trim (trim text) = trim text :=
  (trim_eq_self_iff _).2 (trimmed_trim text)

theorem trim_append_left {before : List Char} (h : ∀ c ∈ before, isBlank c = true)
    (text : List Char) : trim (before ++ text) = trim text := by
  rw [trim, trim, List.dropWhile_append_of_pos h]

theorem trim_append_right {after : List Char} (h : ∀ c ∈ after, isBlank c = true)
    (text : List Char) : trim (text ++ after) = trim text := by
  have reversed : ∀ c ∈ after.reverse, isBlank c = true := fun c hc => h c (List.mem_reverse.1 hc)
  rw [trim, trim, List.dropWhile_append]
  split
  · rename_i blank
    rw [List.isEmpty_iff.1 blank, List.dropWhile_eq_nil_iff.2 h]
  · rw [List.reverse_append, List.dropWhile_append_of_pos reversed]

theorem trim_append_append {before after : List Char} (hb : ∀ c ∈ before, isBlank c = true)
    (ha : ∀ c ∈ after, isBlank c = true) (text : List Char) :
    trim (before ++ text ++ after) = trim text := by
  rw [trim_append_right ha, trim_append_left hb]

/-! ## Blanks of ASCII among bytes -/

theorem isBlank_of_isAsciiBlank {b : UInt8} (h : isAsciiBlank b = true) :
    isBlank (Char.ofNat b.toNat) = true ∧ b.toNat < 0x80 := by
  simp only [isAsciiBlank, Bool.or_eq_true, beq_iff_eq] at h
  rcases h with (((rfl | rfl) | rfl) | rfl) | rfl <;> decide

/-- Bytes of a text without their first blanks are those of the text without
some of its first blanks. -/
theorem exists_dropWhile_encode (text : List Char) :
    ∃ before after, text = before ++ after ∧ (∀ c ∈ before, isBlank c = true) ∧
      (Utf8.encode text).dropWhile isAsciiBlank = Utf8.encode after := by
  induction text with
  | nil => exact ⟨[], [], rfl, nofun, rfl⟩
  | cons c text ih =>
    obtain ⟨b, bytes, hb⟩ := Utf8.encodeChar_eq_cons c
    by_cases blank : isAsciiBlank b = true
    · obtain ⟨isBlank, small⟩ := isBlank_of_isAsciiBlank blank
      obtain ⟨hc, single⟩ := Utf8.eq_of_mem_encodeChar (hb ▸ List.mem_cons_self) small
      obtain ⟨before, after, rfl, hbefore, dropped⟩ := ih
      refine ⟨c :: before, after, rfl, List.forall_mem_cons.2 ⟨hc ▸ isBlank, hbefore⟩, ?_⟩
      rw [Utf8.encode_cons, single, List.singleton_append, List.dropWhile_cons_of_pos blank, dropped]
    · refine ⟨[], c :: text, rfl, nofun, ?_⟩
      rw [Utf8.encode_cons, hb, List.cons_append, List.dropWhile_cons_of_neg blank]

/-- The text that is left of bytes without their first blanks is trimmed as all of it. -/
theorem exists_decode_dropWhile (text : List Char) :
    ∃ rest, Utf8.decode ((Utf8.encode text).dropWhile isAsciiBlank) = .ok rest ∧
      trim rest = trim text := by
  obtain ⟨before, after, rfl, blank, dropped⟩ := exists_dropWhile_encode text
  exact ⟨after, by rw [dropped, Utf8.decode_encode], (trim_append_left blank after).symm⟩

/-- Bytes whose first blanks are dropped are a text only if all of them are, and
it is trimmed as what is left. -/
theorem exists_decode_of_dropWhile {bytes : List UInt8} {rest : List Char}
    (h : Utf8.decode (bytes.dropWhile isAsciiBlank) = .ok rest) :
    ∃ text, Utf8.decode bytes = .ok text ∧ trim text = trim rest := by
  induction bytes with
  | nil => exact ⟨rest, h, rfl⟩
  | cons b bytes ih =>
    by_cases blank : isAsciiBlank b = true
    · rw [List.dropWhile_cons_of_pos blank] at h
      obtain ⟨text, read, same⟩ := ih h
      obtain ⟨blankChar, small⟩ := isBlank_of_isAsciiBlank blank
      refine ⟨_, Utf8.decode_cons small read, ?_⟩
      have before : ∀ c ∈ [Char.ofNat b.toNat], isBlank c = true := by simpa using blankChar
      rw [← same]
      exact trim_append_left before text
    · rw [List.dropWhile_cons_of_neg blank] at h
      exact ⟨rest, h, rfl⟩

end Periapsis.Text
