import Periapsis.Decimal.Reading
import Periapsis.Proofs.Text.Blank

/-!
# The characters of numbers

What is read as a number consists of letters and digits of ASCII, signs and
points (`forall_isNumeric_of_readFloat?`), so it is not empty and has no blanks
(`trim_of_readFloat?`).
-/

namespace Periapsis.Decimal

theorem isLower_iff (c : Char) : c.isLower = true ↔ 97 ≤ c.toNat ∧ c.toNat ≤ 122 := by
  show (decide ('a'.val ≤ c.val) && decide (c.val ≤ 'z'.val)) = true ↔ _
  rw [Bool.and_eq_true, decide_eq_true_eq, decide_eq_true_eq, UInt32.le_iff_toNat_le,
    UInt32.le_iff_toNat_le]
  exact Iff.rfl

theorem isUpper_iff (c : Char) : c.isUpper = true ↔ 65 ≤ c.toNat ∧ c.toNat ≤ 90 := by
  show decide ('A'.val ≤ c.val ∧ c.val ≤ 'Z'.val) = true ↔ _
  rw [decide_eq_true_eq, UInt32.le_iff_toNat_le, UInt32.le_iff_toNat_le]
  exact Iff.rfl

theorem isDigit_iff (c : Char) : c.isDigit = true ↔ 48 ≤ c.toNat ∧ c.toNat ≤ 57 := by
  show (decide ('0'.val ≤ c.val) && decide (c.val ≤ '9'.val)) = true ↔ _
  rw [Bool.and_eq_true, decide_eq_true_eq, decide_eq_true_eq, UInt32.le_iff_toNat_le,
    UInt32.le_iff_toNat_le]
  exact Iff.rfl

/-- A character that numbers are written with. -/
def IsNumeric (c : Char) : Prop :=
  ((c.isUpper = true ∨ c.isLower = true) ∨ c.isDigit = true) ∨ c = '+' ∨ c = '-' ∨ c = '.'

instance (c : Char) : Decidable (IsNumeric c) :=
  inferInstanceAs (Decidable (_ ∨ _))

theorem isNumeric_of_isDigit {c : Char} (h : c.isDigit = true) : IsNumeric c :=
  .inl (.inr h)

theorem isNumeric_of_toLower {c : Char} (h : c.toLower.isLower = true) : IsNumeric c := by
  unfold Char.toLower at h
  split at h
  · rename_i upper
    exact .inl (.inl (.inl (decide_eq_true upper)))
  · exact .inl (.inl (.inr h))

/-- Numbers are written with characters from `'+'` to `'z'`. -/
theorem IsNumeric.range {c : Char} (h : IsNumeric c) : 0x2B ≤ c.toNat ∧ c.toNat ≤ 0x7A := by
  rcases h with h | rfl | rfl | rfl
  · rw [isUpper_iff, isLower_iff, isDigit_iff] at h
    omega
  all_goals decide

theorem isBlank_of_isNumeric {c : Char} (h : IsNumeric c) : Text.isBlank c = false := by
  obtain ⟨low, high⟩ := h.range
  unfold Text.isBlank
  simp only [Bool.or_eq_false_iff, Bool.and_eq_false_iff, decide_eq_false_iff_not,
    beq_eq_false_iff_ne]
  omega

/-! ## Readers -/

theorem forall_isNumeric_of_word {text word : List Char} (h : text.map Char.toLower = word)
    (letters : word.all Char.isLower = true) : ∀ c ∈ text, IsNumeric c :=
  fun _ hc => isNumeric_of_toLower (List.all_eq_true.1 letters _ (h ▸ List.mem_map_of_mem hc))

theorem forall_isNumeric_takeWhile (text : List Char) :
    ∀ c ∈ text.takeWhile Char.isDigit, IsNumeric c :=
  fun _ hc => isNumeric_of_isDigit (List.mem_takeWhile_imp hc)

theorem forall_isNumeric_of_readExponent? {text : List Char} {e : Int}
    (h : readExponent? text = some e) : ∀ c ∈ text, IsNumeric c := by
  revert h
  fun_cases readExponent? text with
  | case1 => exact fun _ => nofun
  | case2 letter rest negative digits signed valid =>
    intro _
    have numeric : ∀ c ∈ digits, IsNumeric c :=
      fun c hc => isNumeric_of_isDigit (List.all_eq_true.1 valid.2.2 c hc)
    refine List.forall_mem_cons.2 ⟨?_, ?_⟩
    · rcases valid.1 with rfl | rfl <;> exact .inl (by decide)
    · split at signed <;> cases signed
      · exact List.forall_mem_cons.2 ⟨.inr (.inr (.inl rfl)), numeric⟩
      · exact List.forall_mem_cons.2 ⟨.inr (.inl rfl), numeric⟩
      · exact numeric
  | case3 => exact nofun

theorem forall_isNumeric_of_readDigits? {text : List Char} {x : Float}
    (h : readDigits? text = some x) : ∀ c ∈ text, IsNumeric c := by
  revert h
  fun_cases readDigits? text with
  | case1 => exact nofun
  | case2 whole rest fraction behind parts =>
    intro h
    obtain ⟨e, he, -⟩ := Option.map_eq_some_iff.1 h
    have exponent := forall_isNumeric_of_readExponent? he
    rw [← List.takeWhile_append_dropWhile (p := Char.isDigit) (l := text), List.forall_mem_append]
    refine ⟨forall_isNumeric_takeWhile text, ?_⟩
    show ∀ c ∈ rest, IsNumeric c
    clear_value rest
    split at parts
    · rename_i digits
      simp only [Prod.mk.injEq] at parts
      rw [← List.takeWhile_append_dropWhile (p := Char.isDigit) (l := digits), parts.2]
      exact List.forall_mem_cons.2 ⟨.inr (.inr (.inr rfl)),
        List.forall_mem_append.2 ⟨forall_isNumeric_takeWhile digits, exponent⟩⟩
    · simp only [Prod.mk.injEq] at parts
      rw [parts.2]
      exact exponent

theorem forall_isNumeric_of_readUnsigned? {text : List Char} {x : Float}
    (h : readUnsigned? text = some x) : ∀ c ∈ text, IsNumeric c := by
  revert h
  fun_cases readUnsigned? text with
  | case1 word infinity =>
    rcases infinity with infinity | infinity <;>
      exact fun _ => forall_isNumeric_of_word infinity (by decide)
  | case2 word _ notANumber => exact fun _ => forall_isNumeric_of_word notANumber (by decide)
  | case3 => exact forall_isNumeric_of_readDigits?

theorem forall_isNumeric_of_readFloat? {text : List Char} {x : Float}
    (h : readFloat? text = some x) : ∀ c ∈ text, IsNumeric c := by
  revert h
  fun_cases readFloat? text with
  | case1 text =>
    intro h
    obtain ⟨y, hy, -⟩ := Option.map_eq_some_iff.1 h
    exact List.forall_mem_cons.2 ⟨.inr (.inr (.inl rfl)), forall_isNumeric_of_readUnsigned? hy⟩
  | case2 text =>
    intro h
    exact List.forall_mem_cons.2 ⟨.inr (.inl rfl), forall_isNumeric_of_readUnsigned? h⟩
  | case3 => exact forall_isNumeric_of_readUnsigned?

theorem ne_nil_of_readFloat? {text : List Char} {x : Float} (h : readFloat? text = some x) :
    text ≠ [] := by
  rintro rfl
  cases h

theorem trim_of_readFloat? {text : List Char} {x : Float} (h : readFloat? text = some x) :
    Text.trim text = text := by
  have blank : ∀ c ∈ text, Text.isBlank c = false :=
    fun c hc => isBlank_of_isNumeric (forall_isNumeric_of_readFloat? h c hc)
  exact (Text.trim_eq_self_iff text).2 ⟨fun c hc => blank c (List.mem_of_head? hc),
    fun c hc => blank c (List.mem_of_getLast? hc)⟩

end Periapsis.Decimal
