import Periapsis.Proofs.Decimal.Reading
import Periapsis.Proofs.Yaml.Quoted
import Periapsis.Proofs.Yaml.Plain
import Periapsis.Yaml.Value

/-!
# Values, written and read

What would be taken for something else than text stands for itself on a line
(`inline_of_isOther`). What is read as a number can be written plain
(`plainText_of_readNumber?`), and so can a whole number, which is read as itself
(`readInt?_toString`).
-/

namespace Periapsis.Yaml

open Decimal (IsNumeric)

theorem inline_of_isNumeric {c : Char} (h : IsNumeric c) : Inline c := by
  obtain ⟨low, high⟩ := h.range
  exact inline_of_range (Nat.le_trans (by decide) low) (Nat.le_trans high (by decide))

theorem inline_of_hexValue? {c : Char} {d : Nat} (h : hexValue? c = some d) : Inline c := by
  obtain ⟨low, high⟩ := range_of_hexValue? h
  exact inline_of_range (Nat.le_trans (by decide) low) (Nat.le_trans high (by decide))

/-! ## Whole numbers -/

/-- The value of digits behind digits with a value. -/
def valueOf? (base value : Nat) (digits : List Char) : Option Nat :=
  digits.foldlM (fun n c =>
    match hexValue? c with
    | some d => if d < base then some (base * n + d) else none
    | none => none) value

theorem digitsValue?_eq {digits : List Char} (ne_nil : digits ≠ []) (base : Nat) :
    digitsValue? base digits = valueOf? base 0 digits :=
  if_neg ne_nil

theorem inline_of_valueOf? {base : Nat} {digits : List Char} {value n : Nat}
    (h : valueOf? base value digits = some n) : ∀ c ∈ digits, Inline c := by
  induction digits generalizing value with
  | nil => exact nofun
  | cons c digits ih =>
    rw [valueOf?, List.foldlM_cons] at h
    obtain ⟨value', step, h⟩ := Option.bind_eq_some_iff.1 h
    refine List.forall_mem_cons.2 ⟨?_, ih h⟩
    split at step
    · rename_i d found
      exact inline_of_hexValue? found
    · cases step

theorem inline_of_digitsValue? {base n : Nat} {digits : List Char}
    (h : digitsValue? base digits = some n) : ∀ c ∈ digits, Inline c := by
  by_cases nil : digits = []
  · rw [nil]
    exact nofun
  · rw [digitsValue?_eq nil] at h
    exact inline_of_valueOf? h

theorem inline_of_magnitude? {n : Nat} {text : List Char} (h : magnitude? text = some n) :
    ∀ c ∈ text, Inline c := by
  revert h
  fun_cases magnitude? text with
  | case1 digits | case2 digits | case3 digits =>
    intro h
    exact List.forall_mem_cons.2 ⟨by decide, List.forall_mem_cons.2 ⟨by decide,
      inline_of_digitsValue? h⟩⟩
  | case4 => exact nofun
  | case5 => exact inline_of_digitsValue?

theorem readInt?_minus (text : List Char) :
    readInt? ('-' :: text) = (magnitude? text).map fun (n : Nat) => -(n : Int) := by
  rw [readInt?]
  cases magnitude? text <;> rfl

theorem inline_of_readInt? {n : Int} {text : List Char} (h : readInt? text = some n) :
    ∀ c ∈ text, Inline c := by
  have size {text : List Char} {f : Nat → Int} (h : (magnitude? text).map f = some n) :
      ∀ c ∈ text, Inline c := by
    obtain ⟨size, h, -⟩ := Option.map_eq_some_iff.1 h
    exact inline_of_magnitude? h
  unfold readInt? at h
  split at h
  · rename_i rest
    exact List.forall_mem_cons.2 ⟨by decide, size ((readInt?_minus rest).symm.trans h)⟩
  · exact List.forall_mem_cons.2 ⟨by decide, size h⟩
  · exact size h

/-! ### Written whole numbers -/

theorem hexValue?_digit : ∀ d < 10, hexValue? (Nat.digitChar d) = some d := by
  decide

theorem valueOf?_toDigits (n : Nat) : valueOf? 10 0 (Nat.toDigits 10 n) = some n := by
  induction n using Nat.strongRecOn with
  | ind n ih =>
    rw [Nat.toDigits_eq_if (by decide)]
    split
    · rename_i small
      simp [valueOf?, hexValue?_digit n small, small]
    · rename_i large
      have below : n % 10 < 10 := Nat.mod_lt n (by decide)
      have value : 10 * (n / 10) + n % 10 = n := Nat.div_add_mod n 10
      rw [valueOf?, List.foldlM_append]
      show (valueOf? 10 0 (Nat.toDigits 10 (n / 10))).bind _ = _
      rw [ih (n / 10) (Nat.div_lt_self (by omega) (by decide))]
      simp [hexValue?_digit _ below, below, value]

/-- No digit is needless in front of others. -/
theorem head?_toDigits {n : Nat} (h : n ≠ 0) : (Nat.toDigits 10 n).head? ≠ some '0' := by
  induction n using Nat.strongRecOn with
  | ind n ih =>
    rw [Nat.toDigits_eq_if (by decide)]
    split
    · rename_i small
      have digit : ∀ d < 10, d ≠ 0 → Nat.digitChar d ≠ '0' := by decide
      simpa using digit n small h
    · rename_i large
      rw [List.head?_append_of_ne_nil _ Nat.toDigits_ne_nil]
      exact ih (n / 10) (Nat.div_lt_self (by omega) (by decide)) (by omega)

theorem magnitude?_toDigits (n : Nat) : magnitude? (Nat.toDigits 10 n) = some n := by
  have value := (digitsValue?_eq Nat.toDigits_ne_nil 10).trans (valueOf?_toDigits n)
  by_cases zero : n = 0
  · rw [zero]
    rfl
  · have head := head?_toDigits zero
    generalize Nat.toDigits 10 n = digits at value head
    fun_cases magnitude? digits with
    | case1 | case2 | case3 | case4 => exact absurd rfl head
    | case5 => exact value

theorem toList_toString (n : Int) :
    (toString n).toList = (if n < 0 then ['-'] else []) ++ Nat.toDigits 10 n.natAbs := by
  cases n with
  | ofNat n =>
    rw [if_neg (by simp)]
    exact congrArg String.toList Nat.toString_eq_ofList_toDigits |>.trans String.toList_ofList
  | negSucc n =>
    rw [if_pos (Int.negSucc_lt_zero n)]
    show ("-" ++ toString (n + 1)).toList = _
    rw [String.toList_append, Nat.toString_eq_ofList_toDigits, String.toList_ofList,
      String.toList_ofList]
    rfl

/-- A whole number is read as itself. -/
theorem readInt?_toString (n : Int) : readInt? (toString n).toList = some n := by
  rw [toList_toString]
  split
  · rename_i negative
    rw [List.singleton_append, readInt?_minus, magnitude?_toDigits]
    show some (-(n.natAbs : Int)) = some n
    congr 1
    omega
  · rename_i positive
    rw [List.nil_append]
    have size := magnitude?_toDigits n.natAbs
    have digits : ∀ c ∈ Nat.toDigits 10 n.natAbs, c.isDigit = true :=
      fun c hc => Nat.isDigit_of_mem_toDigits (by decide) (by decide) hc
    generalize Nat.toDigits 10 n.natAbs = text at size digits
    unfold readInt?
    split
    · exact absurd (digits '-' List.mem_cons_self) (by decide)
    · exact absurd (digits '+' List.mem_cons_self) (by decide)
    · rw [size]
      show some (n.natAbs : Int) = some n
      congr 1
      omega

/-! ## Numbers -/

/-- A word that is among others is one of them. -/
theorem forall_of_ofList_mem {P : Char → Prop} [DecidablePred P] {words : List String}
    {text : List Char} (h : String.ofList text ∈ words)
    (all : words.all (fun word => word.toList.all fun c => decide (P c)) = true) :
    ∀ c ∈ text, P c := by
  have own := forall_mem_of_all (List.all_eq_true.1 all _ h)
  rwa [String.toList_ofList] at own

/-- The words for numbers that are not finite. -/
def numberWords : List String :=
  [".inf", ".Inf", ".INF", "-.inf", "-.Inf", "-.INF", ".nan", ".NaN", ".NAN"]

/-- A text without a plus sign in front of it. -/
def withoutPlus (text : List Char) : List Char :=
  match text with
  | '+' :: rest => rest
  | _ => text

theorem withoutPlus_cases (text : List Char) :
    text = withoutPlus text ∨ text = '+' :: withoutPlus text := by
  fun_cases withoutPlus text with
  | case1 => exact .inr rfl
  | case2 => exact .inl rfl

/-- Numbers of files are words or decimal text, behind a plus sign or not. -/
theorem readNumber?_cases {x : Float} {text : List Char} (h : readNumber? text = some x) :
    ∃ unsigned, (text = unsigned ∨ text = '+' :: unsigned) ∧
      (String.ofList unsigned ∈ numberWords ∨ ∃ y, Decimal.readFloat? unsigned = some y) := by
  revert h
  fun_cases readNumber? text with
  | case1 => exact nofun
  | case2 unsigned word _ infinity =>
    have among : word ∈ numberWords := by rcases infinity with h | h | h <;> rw [h] <;> decide
    exact fun _ => ⟨unsigned, withoutPlus_cases text, .inl among⟩
  | case3 unsigned word _ _ infinity =>
    have among : word ∈ numberWords := by rcases infinity with h | h | h <;> rw [h] <;> decide
    exact fun _ => ⟨unsigned, withoutPlus_cases text, .inl among⟩
  | case4 unsigned word _ _ _ undefined =>
    exact fun _ => ⟨text, .inl rfl, .inl (List.mem_append_right (numberWords.take 6) undefined)⟩
  | case5 unsigned word =>
    exact fun h =>
      ⟨unsigned, withoutPlus_cases text, .inr ⟨x, (Option.filter_eq_some_iff.1 h).1⟩⟩

theorem isNumeric_of_readNumber? {x : Float} {text : List Char} (h : readNumber? text = some x) :
    ∀ c ∈ text, IsNumeric c := by
  obtain ⟨unsigned, sign, read⟩ := readNumber?_cases h
  have numeric : ∀ c ∈ unsigned, IsNumeric c := by
    rcases read with word | ⟨y, read⟩
    · exact forall_of_ofList_mem word (by decide)
    · exact Decimal.forall_isNumeric_of_readFloat? read
  rcases sign with rfl | rfl
  · exact numeric
  · exact List.forall_mem_cons.2 ⟨by decide, numeric⟩

theorem hasIndicator_of_isNumeric {text : List Char} (numeric : ∀ c ∈ text, IsNumeric c)
    (ne_hyphen : text ≠ ['-'])
    (noMark : ∀ rest, text ≠ '-' :: '-' :: '-' :: rest ∧ text ≠ '.' :: '.' :: '.' :: rest) :
    hasIndicator text = false := by
  unfold hasIndicator
  split
  · exact absurd rfl (noMark _).1
  · exact absurd rfl (noMark _).2
  · rename_i c rest _ _
    obtain ⟨hc, numeric⟩ := List.forall_mem_cons.1 numeric
    have apart : ∀ d ∈ "#,[]\x7b\x7d&*!|>\'\"%@\x60?:".toList, ¬ IsNumeric d :=
      forall_mem_of_all (by decide)
    have noIndicator : "#,[]\x7b\x7d&*!|>\'\"%@\x60".contains c = false := by
      rw [String.contains_char_eq, decide_eq_false_iff_not]
      exact fun mem => apart c (List.mem_append_left ['?', ':'] mem) hc
    rw [noIndicator, Bool.false_or]
    cases rest with
    | nil =>
      have other : c ≠ '-' := fun e => ne_hyphen (by rw [e])
      have noSign : "?:-".contains c = false := by
        rw [String.contains_char_eq, decide_eq_false_iff_not]
        intro mem
        rcases List.mem_cons.1 mem with rfl | mem
        · exact absurd hc (by decide)
        rcases List.mem_cons.1 mem with rfl | mem
        · exact absurd hc (by decide)
        · exact other (List.mem_singleton.1 mem)
      rw [noSign, Bool.false_and]
    | cons d rest =>
      have hd := numeric d List.mem_cons_self
      have noSpace : d ≠ ' ' := fun e => absurd (e ▸ hd) (by decide)
      rw [(inline_of_isNumeric hd).endsWritten_eq, beq_eq_false_iff_ne.2 noSpace, Bool.and_false]
  · rfl

theorem hasMarkup_of_isNumeric {text : List Char} (numeric : ∀ c ∈ text, IsNumeric c)
    (ended : Bool) : hasMarkup ended text = false := by
  induction text generalizing ended with
  | nil => rfl
  | cons c text ih =>
    obtain ⟨hc, numeric⟩ := List.forall_mem_cons.1 numeric
    have colon : c ≠ ':' := fun e => absurd (e ▸ hc) (by decide)
    have number : c ≠ '#' := fun e => absurd (e ▸ hc) (by decide)
    rw [hasMarkup, beq_eq_false_iff_ne.2 colon, beq_eq_false_iff_ne.2 number, ih numeric]
    rfl

/-- What is made of the characters of numbers can be written plain, but for a
hyphen alone and what starts like the mark of a document. -/
theorem PlainText.of_isNumeric {text : List Char} (numeric : ∀ c ∈ text, IsNumeric c)
    (ne_nil : text ≠ []) (ne_hyphen : text ≠ ['-'])
    (noMark : ∀ rest, text ≠ '-' :: '-' :: '-' :: rest ∧ text ≠ '.' :: '.' :: '.' :: rest) :
    PlainText text where
  ne_nil := ne_nil
  inline c hc := inline_of_isNumeric (numeric c hc)
  indicator := hasIndicator_of_isNumeric numeric ne_hyphen noMark
  markup := hasMarkup_of_isNumeric numeric false
  head h := absurd (numeric _ (List.mem_of_head? h)) (by decide)
  last h := absurd (numeric _ (List.mem_of_getLast? h)) (by decide)

/-- A word of small letters can be written plain. -/
theorem PlainText.of_isLower {text : List Char} (ne_nil : text ≠ [])
    (lower : text.all Char.isLower = true) : PlainText text := by
  have letter : ∀ c ∈ text, c.isLower = true := List.all_eq_true.1 lower
  have apart {c : Char} {rest : List Char} (sign : c.isLower = false) : text ≠ c :: rest := by
    rintro rfl
    rw [letter c List.mem_cons_self] at sign
    cases sign
  exact .of_isNumeric (fun c hc => .inl (.inl (.inr (letter c hc)))) ne_nil (apart (by decide))
    fun rest => ⟨apart (by decide), apart (by decide)⟩

/-- No number starts like the mark of a document. -/
theorem readUnsigned?_hyphen (rest : List Char) : Decimal.readUnsigned? ('-' :: rest) = none := by
  unfold Decimal.readUnsigned?
  rw [List.map_cons]
  dsimp only
  rw [if_neg (by simp), if_neg (by simp)]
  rfl

theorem readUnsigned?_points (rest : List Char) :
    Decimal.readUnsigned? ('.' :: '.' :: rest) = none := by
  unfold Decimal.readUnsigned?
  rw [List.map_cons]
  dsimp only
  rw [if_neg (by simp), if_neg (by simp)]
  rfl

theorem readFloat?_hyphens (rest : List Char) :
    Decimal.readFloat? ('-' :: '-' :: rest) = none := by
  rw [Decimal.readFloat?, readUnsigned?_hyphen]
  rfl

theorem readFloat?_points (rest : List Char) :
    Decimal.readFloat? ('.' :: '.' :: rest) = none :=
  readUnsigned?_points rest

theorem plainText_of_readNumber? {x : Float} {text : List Char} (h : readNumber? text = some x) :
    PlainText text := by
  have words : ∀ word ∈ numberWords, ∀ rest,
      word.toList ≠ '-' :: '-' :: rest ∧ word.toList ≠ '.' :: '.' :: rest := by
    simp [numberWords]
  have noMark {a : Char} {rest : List Char} (mark : a = '-' ∨ a = '.') : text ≠ a :: a :: rest := by
    rintro rfl
    obtain ⟨unsigned, rfl | sign, read⟩ := readNumber?_cases h
    · rcases read with word | ⟨y, read⟩
      · have no := words _ word rest
        rw [String.toList_ofList] at no
        rcases mark with rfl | rfl
        · exact no.1 rfl
        · exact no.2 rfl
      · rcases mark with rfl | rfl
        · rw [readFloat?_hyphens] at read
          cases read
        · rw [readFloat?_points] at read
          cases read
    · rcases mark with rfl | rfl <;> cases sign
  refine .of_isNumeric (isNumeric_of_readNumber? h) ?_ ?_ fun rest =>
    ⟨noMark (.inl rfl), noMark (.inr rfl)⟩
  · rintro rfl
    cases h
  · rintro rfl
    cases h

theorem plainText_toString (n : Int) : PlainText (toString n).toList := by
  rw [toList_toString]
  have digits : ∀ c ∈ Nat.toDigits 10 n.natAbs, c.isDigit = true :=
    fun c hc => Nat.isDigit_of_mem_toDigits (by decide) (by decide) hc
  obtain ⟨c, rest, written⟩ :=
    List.exists_cons_of_ne_nil (Nat.toDigits_ne_nil (n := n.natAbs) (b := 10))
  rw [written] at digits ⊢
  have first : c.isDigit = true := digits c List.mem_cons_self
  have numeric : ∀ d ∈ c :: rest, IsNumeric d :=
    fun d hd => Decimal.isNumeric_of_isDigit (digits d hd)
  -- Behind the sign there is a digit, and so is the first character without one.
  have other {d : Char} (noDigit : d.isDigit = false) : c ≠ d := by
    rintro rfl
    rw [first] at noDigit
    cases noDigit
  split
  · rw [List.singleton_append]
    refine .of_isNumeric (List.forall_mem_cons.2 ⟨by decide, numeric⟩) nofun nofun fun more => ?_
    simp [other (d := '-') (by decide)]
  · rw [List.nil_append]
    refine .of_isNumeric numeric nofun ?_ fun more => ?_ <;>
      simp [other (d := '-') (by decide), other (d := '.') (by decide)]

/-! ## What is not text -/

theorem inline_of_isPadded {text : List Char} (h : isPadded text = true) :
    ∀ c ∈ text, Inline c := by
  revert h
  fun_cases isPadded text with
  | case1 digits rest zero =>
    intro h
    obtain ⟨-, h⟩ := Bool.and_eq_true_iff.1 h
    have padded : ∀ c ∈ digits, Inline c := by
      rw [zero]
      exact List.forall_mem_cons.2 ⟨by decide, fun c hc =>
        inline_of_isNumeric (Decimal.isNumeric_of_isDigit (List.all_eq_true.1 h c hc))⟩
    have sign : text = digits ∨ text = '-' :: digits ∨ text = '+' :: digits := by
      simp only [digits]
      split <;> simp
    rcases sign with same | same | same
    · rwa [same]
    all_goals
      rw [same]
      exact List.forall_mem_cons.2 ⟨by decide, padded⟩
  | case2 => exact nofun

theorem inline_of_isWord {text : List Char} (h : isWord text = true) : ∀ c ∈ text, Inline c :=
  forall_of_ofList_mem (List.contains_iff_mem.1 h) (by decide)

/-- Text that would be taken for something else has no special characters. -/
theorem inline_of_isOther {text : List Char} (h : isOther text = true) : ∀ c ∈ text, Inline c := by
  simp only [isOther, Bool.or_eq_true] at h
  rcases h with ((word | whole) | number) | padded
  · exact inline_of_isWord word
  · unfold isWhole at whole
    split at whole
    · rename_i n read
      exact inline_of_readInt? read
    · cases whole
  · obtain ⟨x, read⟩ := Option.isSome_iff_exists.1 number
    exact fun c hc => inline_of_isNumeric (isNumeric_of_readNumber? read c hc)
  · exact inline_of_isPadded padded

end Periapsis.Yaml
