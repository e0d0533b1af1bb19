import Periapsis.Proofs.Decimal.Reading
import Periapsis.Proofs.Yaml.Source

/-!
# Quoted text, read again

What is written for a character in quotes is read as this character
(`quoted_single_char`, `quoted_double_char`), so a whole text in quotes is read
as that text (`quoted_writeSingle`, `quoted_writeDouble`). In double quotes this
holds of every character but the two separators; what is special there is
written by its code, which is read digit by digit (`quoted_code`).
-/

namespace Periapsis.Yaml

/-! ## Visible characters -/

/-- Inside a line, what is no space and no line end either stands for itself or
begins an escape, or it ends the text. -/
theorem quoted_visible {single : Bool} {m : Mark} {c : Char} (inside : m.column ≠ 0)
    (noSpace : isSpace c = false) (noBreak : isBreak c = false) (read : List Char) (joint : Joint)
    (tail : List Char) :
    quoted single read joint .text m (c :: tail) =
      if single then
        if c = '\'' then quoted single (joint.folded ++ read) .empty .quote m.next tail
        else quoted single (c :: (joint.folded ++ read)) .empty .text (m.past c) tail
      else if c = '"' then some ⟨(joint.folded ++ read).reverse, tail, m.next, false⟩
      else if c = '\\' then quoted single (joint.folded ++ read) .empty .escape m.next tail
      else quoted single (c :: (joint.folded ++ read)) .empty .text (m.past c) tail := by
  have noMark : ¬ (m.column = 0 ∧ isDocumentMark (c :: tail) = true) := fun h => inside h.1
  show (if m.column = 0 ∧ isDocumentMark (c :: tail) = true then none else _) = _
  rw [if_neg noMark, noSpace, if_neg Bool.false_ne_true, noBreak, if_neg Bool.false_ne_true]

/-! ## Codes -/

/-- A digit of a code is a character of ASCII. -/
theorem range_of_hexValue? {c : Char} {d : Nat} (h : hexValue? c = some d) :
    0x30 ≤ c.toNat ∧ c.toNat ≤ 0x66 := by
  unfold hexValue? at h
  split at h
  · rename_i digit
    obtain ⟨low, high⟩ := (Decimal.isDigit_iff c).1 digit
    exact ⟨low, Nat.le_trans high (by decide)⟩
  split at h
  · rename_i letter
    exact ⟨Nat.le_trans (by decide) (Char.le_def.1 letter.1), letter.2⟩
  split at h
  · rename_i letter
    exact ⟨Nat.le_trans (by decide) (Char.le_def.1 letter.1), Nat.le_trans letter.2 (by decide)⟩
  · cases h

theorem utf8Size_of_hexValue? {c : Char} {d : Nat} (h : hexValue? c = some d) : c.utf8Size = 1 := by
  rw [Char.utf8Size_eq_one_iff, UInt32.le_iff_toNat_le]
  exact Nat.le_trans (range_of_hexValue? h).2 (by decide)

/-- The value of digits behind digits with a value. -/
def codeValue? (value : Nat) (digits : List Char) : Option Nat :=
  digits.foldlM (fun value c => (hexValue? c).map (16 * value + ·)) value

theorem exists_hexValue?_of_codeValue? {digits : List Char} {value n : Nat}
    (h : codeValue? value digits = some n) : ∀ c ∈ digits, ∃ d, hexValue? c = some d := by
  induction digits generalizing value with
  | nil => exact nofun
  | cons c digits ih =>
    rw [codeValue?, List.foldlM_cons] at h
    obtain ⟨value', step, h⟩ := Option.bind_eq_some_iff.1 h
    obtain ⟨d, found, -⟩ := Option.map_eq_some_iff.1 step
    exact List.forall_mem_cons.2 ⟨⟨d, found⟩, ih h⟩

theorem codeValue?_zeros (k : Nat) (digits : List Char) :
    codeValue? 0 (List.replicate k '0' ++ digits) = codeValue? 0 digits := by
  induction k with
  | zero => rfl
  | succ k ih =>
    rw [List.replicate_succ, List.cons_append]
    exact ih

theorem hexValue?_digitChar : ∀ d < 16, hexValue? (Nat.digitChar d).toUpper = some d := by
  decide

theorem codeValue?_toDigits (n : Nat) :
    codeValue? 0 ((Nat.toDigits 16 n).map Char.toUpper) = some n := by
  induction n using Nat.strongRecOn with
  | ind n ih =>
    rw [Nat.toDigits_eq_if (by decide)]
    split
    · rename_i small
      simp [codeValue?, hexValue?_digitChar n small]
    · rename_i large
      have last := hexValue?_digitChar (n % 16) (Nat.mod_lt n (by decide))
      have value : 16 * (n / 16) + n % 16 = n := Nat.div_add_mod n 16
      rw [List.map_append, codeValue?, List.foldlM_append]
      show (codeValue? 0 ((Nat.toDigits 16 (n / 16)).map Char.toUpper)).bind _ = _
      rw [ih (n / 16) (Nat.div_lt_self (by omega) (by decide))]
      simp [last, value]

theorem codeValue?_hexDigits (width n : Nat) : codeValue? 0 (hexDigits width n) = some n := by
  rw [hexDigits, codeValue?_zeros, codeValue?_toDigits]

theorem length_hexDigits {width n : Nat} (positive : 0 < width) (h : n < Nat.pow 16 width) :
    (hexDigits width n).length = width := by
  have short := (Nat.length_toDigits_le_iff (b := 16) (by decide) positive).2 h
  simp only [hexDigits, List.length_append, List.length_replicate, List.length_map]
  omega

/-- The digits of a code are read as its character. -/
theorem quoted_code (single : Bool) {digits : List Char} (ne_nil : digits ≠ []) {value n : Nat}
    {c : Char} (code : codeValue? value digits = some n) (point : codePoint? n = some c)
    (read : List Char) (m : Mark) (tail : List Char) :
    quoted single read .empty (.code digits.length value) m (digits ++ tail) =
      quoted single (c :: read) .empty .text (m.along digits) tail := by
  induction digits generalizing value m with
  | nil => exact absurd rfl ne_nil
  | cons d digits ih =>
    rw [codeValue?, List.foldlM_cons] at code
    obtain ⟨value', step, code⟩ := Option.bind_eq_some_iff.1 code
    obtain ⟨h, digit, rfl⟩ := Option.map_eq_some_iff.1 step
    rw [List.cons_append, quoted]
    simp only [digit, List.length_cons]
    rw [Mark.along_cons, ← Mark.next_eq_past m (utf8Size_of_hexValue? digit)]
    cases digits with
    | nil =>
      cases code
      rw [if_pos (by decide), point]
      rfl
    | cons d' digits =>
      rw [if_neg (by simp), Nat.add_sub_cancel, ih nofun code]

/-- Four digits are enough for what is special. -/
theorem toNat_lt_of_isSpecial {c : Char} (h : isSpecial c = true) : c.toNat < Nat.pow 16 4 :=
  Nat.lt_of_not_le fun large => by
    have plain := (isSpecial_eq_false_iff c).2 (.inr (.inr (.inr (.inr large))))
    rw [h] at plain
    cases plain

/-! ## Characters -/

/-- What has been read ends in a character more. Spaces at its end are kept
apart, because the end of a line would drop them. -/
def Grown (c : Char) (read spaces read' spaces' : List Char) : Prop :=
  spaces' ++ read' = c :: (spaces ++ read)

variable (read spaces : List Char) {m : Mark} (tail : List Char)

/-- A character that stands for itself. -/
theorem quoted_inline {single : Bool} {c : Char} (inline : Inline c)
    (bare : if single then c ≠ '\'' else c ≠ '"' ∧ c ≠ '\\') (inside : m.column ≠ 0) :
    ∃ read' spaces', Grown c read spaces read' spaces' ∧
      quoted single read (.spaces spaces) .text m (c :: tail) =
        quoted single read' (.spaces spaces') .text (m.along [c]) tail := by
  rw [Mark.along_cons, Mark.along_nil]
  by_cases space : c = ' '
  · subst space
    refine ⟨read, ' ' :: spaces, rfl, ?_⟩
    have noMark : ¬ (m.column = 0 ∧ isDocumentMark (' ' :: tail) = true) := fun h => inside h.1
    show (if m.column = 0 ∧ isDocumentMark (' ' :: tail) = true then none else _) = _
    rw [if_neg noMark, if_pos (by decide), Mark.next_eq_past m (c := ' ') rfl]
    rfl
  · refine ⟨c :: (spaces ++ read), [], rfl, ?_⟩
    have noSpace : isSpace c = false := by
      rw [inline.isSpace_eq]
      simpa using space
    rw [quoted_visible inside noSpace inline.2]
    cases single with
    | true => rw [if_pos rfl, if_neg bare]; rfl
    | false => rw [if_neg Bool.false_ne_true, if_neg bare.1, if_neg bare.2]; rfl

/-- A letter behind a backslash. -/
theorem quoted_escape {c e : Char} (letter : escaped? e = some c) (noBreak : isBreak e = false)
    (size : e.utf8Size = 1) (inside : m.column ≠ 0) :
    ∃ read' spaces', Grown c read spaces read' spaces' ∧
      quoted false read (.spaces spaces) .text m ('\\' :: e :: tail) =
        quoted false read' (.spaces spaces') .text (m.along ['\\', e]) tail := by
  refine ⟨c :: (spaces ++ read), [], rfl, ?_⟩
  rw [quoted_visible inside (by decide) (by decide), if_neg Bool.false_ne_true,
    if_neg (by decide), if_pos rfl, quoted, noBreak, if_neg Bool.false_ne_true, letter]
  dsimp only
  rw [Mark.next_eq_past m (c := '\\') rfl, Mark.next_eq_past _ size, Mark.along_cons,
    Mark.along_cons, Mark.along_nil]
  rfl

/-- The code of a character behind a backslash and the letter for its length. -/
theorem quoted_hexDigits {c x : Char} {width : Nat} (letter : codeLength? x = some width)
    (noEscape : escaped? x = none) (noBreak : isBreak x = false) (size : x.utf8Size = 1)
    (positive : 0 < width) (fits : c.toNat < Nat.pow 16 width) (inside : m.column ≠ 0) :
    ∃ read' spaces', Grown c read spaces read' spaces' ∧
      quoted false read (.spaces spaces) .text m ('\\' :: x :: (hexDigits width c.toNat ++ tail)) =
        quoted false read' (.spaces spaces') .text
          (m.along ('\\' :: x :: hexDigits width c.toNat)) tail := by
  refine ⟨c :: (spaces ++ read), [], rfl, ?_⟩
  have length := length_hexDigits positive fits
  have ne_nil : hexDigits width c.toNat ≠ [] := fun nil => by
    rw [nil] at length
    exact absurd length (Nat.ne_of_lt positive)
  have point : codePoint? c.toNat = some c := by
    have valid : c.toNat.isValidChar := c.valid
    rw [codePoint?, if_pos valid, Char.ofNat_toNat]
  have code := quoted_code false ne_nil (codeValue?_hexDigits width c.toNat) point
    (spaces ++ read) ((m.past '\\').past x) tail
  rw [length] at code
  rw [quoted_visible inside (by decide) (by decide), if_neg Bool.false_ne_true,
    if_neg (by decide), if_pos rfl, quoted, noBreak, if_neg Bool.false_ne_true,
    noEscape, letter]
  dsimp only
  rw [Mark.next_eq_past m (c := '\\') rfl, Mark.next_eq_past _ size, Mark.along_cons,
    Mark.along_cons]
  exact code

/-- A character in single quotes. -/
def escapeSingle (c : Char) : List Char :=
  if c = '\'' then ['\'', '\''] else [c]

theorem quoted_single_char {c : Char} (inline : Inline c) (inside : m.column ≠ 0) :
    ∃ read' spaces', Grown c read spaces read' spaces' ∧
      quoted true read (.spaces spaces) .text m (escapeSingle c ++ tail) =
        quoted true read' (.spaces spaces') .text (m.along (escapeSingle c)) tail := by
  unfold escapeSingle
  split
  · rename_i quote
    subst quote
    refine ⟨'\'' :: (spaces ++ read), [], rfl, ?_⟩
    rw [List.cons_append, quoted_visible inside (by decide) (by decide), if_pos rfl, if_pos rfl]
    rfl
  · rename_i bare
    exact quoted_inline read spaces tail inline (by simpa using bare) inside

theorem quoted_double_char {c : Char} (noSeparator : c ≠ '\u2028' ∧ c ≠ '\u2029')
    (inside : m.column ≠ 0) :
    ∃ read' spaces', Grown c read spaces read' spaces' ∧
      quoted false read (.spaces spaces) .text m (escapeDouble c ++ tail) =
        quoted false read' (.spaces spaces') .text (m.along (escapeDouble c)) tail := by
  unfold escapeDouble
  split
  case h_13 =>
    rename_i line _ _ _ _ quote backslash _
    split
    · rename_i plain
      have special : isSpecial c = false := by simpa using plain
      exact quoted_inline read spaces tail (inline_of_ne special line noSeparator)
        ⟨quote, backslash⟩ inside
    split
    · rename_i short
      exact quoted_hexDigits read spaces tail rfl rfl (by decide) rfl (by decide) short inside
    · rename_i special _
      exact quoted_hexDigits read spaces tail rfl rfl (by decide) rfl (by decide)
        (toNat_lt_of_isSpecial (by simpa using special)) inside
  all_goals exact quoted_escape read spaces tail rfl (by decide) rfl inside

/-! ## Texts -/

/-- A text whose characters are read as they are written is read itself. -/
theorem quoted_flatMap {single : Bool} {write : Char → List Char} {text : List Char}
    (char : ∀ c ∈ text, ∀ (read spaces : List Char) (m : Mark) (tail : List Char), m.column ≠ 0 →
      ∃ read' spaces', Grown c read spaces read' spaces' ∧
        quoted single read (.spaces spaces) .text m (write c ++ tail) =
          quoted single read' (.spaces spaces') .text (m.along (write c)) tail)
    (inside : m.column ≠ 0) :
    ∃ read' spaces', spaces' ++ read' = text.reverse ++ (spaces ++ read) ∧
      quoted single read (.spaces spaces) .text m (text.flatMap write ++ tail) =
        quoted single read' (.spaces spaces') .text (m.along (text.flatMap write)) tail := by
  induction text generalizing read spaces m with
  | nil => exact ⟨read, spaces, rfl, rfl⟩
  | cons c text ih =>
    obtain ⟨first, rest⟩ := List.forall_mem_cons.1 char
    obtain ⟨read₁, spaces₁, grown, step⟩ := first read spaces m (text.flatMap write ++ tail) inside
    have inside₁ : (m.along (write c)).column ≠ 0 := by
      show m.column + (write c).length ≠ 0
      omega
    obtain ⟨read', spaces', same, steps⟩ := ih read₁ spaces₁ rest inside₁
    refine ⟨read', spaces', ?_, ?_⟩
    · rw [same, grown, List.reverse_cons, List.append_assoc]
      rfl
    · rw [List.flatMap_cons, List.append_assoc, step, steps, Mark.along_append]

theorem writeSingle_eq (text : List Char) :
    writeSingle text = '\'' :: (text.flatMap escapeSingle ++ ['\'']) :=
  rfl

theorem writeDouble_eq (text : List Char) :
    writeDouble text = '"' :: (text.flatMap escapeDouble ++ ['"']) :=
  rfl

/-- Text in single quotes is read up to the closing quote, as which none of its
own quotes is taken. -/
theorem quoted_writeSingle {text : List Char} (inline : ∀ c ∈ text, Inline c)
    (single : tail.head? ≠ some '\'') :
    quoted true [] .empty .text m.next (text.flatMap escapeSingle ++ '\'' :: tail) =
      some ⟨text, tail, m.along (writeSingle text), false⟩ := by
  obtain ⟨read', spaces', same, steps⟩ := quoted_flatMap [] [] (m := m.next) ('\'' :: tail)
    (fun c hc read spaces m tail => quoted_single_char read spaces tail (inline c hc))
    (Nat.succ_ne_zero _)
  have read : (spaces' ++ read').reverse = text := by simp [same]
  have inside : (m.next.along (text.flatMap escapeSingle)).column ≠ 0 := by
    simp [Mark.along, Mark.next]
  rw [Joint.empty, steps, quoted_visible inside (by decide) (by decide), if_pos rfl, if_pos rfl,
    writeSingle_eq, Mark.along_cons, Mark.along_append, Mark.next_eq_past m (c := '\'') rfl,
    Mark.next_eq_past _ (c := '\'') rfl]
  cases tail with
  | nil =>
    show some _ = _
    exact congrArg some (by rw [Joint.folded, read]; rfl)
  | cons c tail =>
    show (if c = '\'' then _ else some _) = _
    rw [if_neg (fun h => single (by rw [h]; rfl))]
    exact congrArg some (by rw [Joint.folded, read]; rfl)

/-- Text in double quotes is read up to the closing quote. -/
theorem quoted_writeDouble {text : List Char} (noSeparators : NoSeparators text) :
    quoted false [] .empty .text m.next (text.flatMap escapeDouble ++ '"' :: tail) =
      some ⟨text, tail, m.along (writeDouble text), false⟩ := by
  obtain ⟨read', spaces', same, steps⟩ := quoted_flatMap [] [] (m := m.next) ('"' :: tail)
    (fun c hc read spaces m tail => quoted_double_char read spaces tail (noSeparators c hc))
    (Nat.succ_ne_zero _)
  have read : (spaces' ++ read').reverse = text := by simp [same]
  have inside : (m.next.along (text.flatMap escapeDouble)).column ≠ 0 := by
    simp [Mark.along, Mark.next]
  rw [Joint.empty, steps, quoted_visible inside (by decide) (by decide), if_neg Bool.false_ne_true,
    if_pos rfl, writeDouble_eq, Mark.along_cons, Mark.along_append,
    Mark.next_eq_past m (c := '"') rfl, Mark.next_eq_past _ (c := '"') rfl]
  exact congrArg some (by rw [Joint.folded, read]; rfl)

end Periapsis.Yaml
