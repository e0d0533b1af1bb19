import Periapsis.Text.Utf8

/-!
# Characters as bytes and back

The bytes of a text are read as that text (`decode_encode`), and no other
character starts with the bytes of one (`first?_encode`). A byte below 128 is a
character of its own and no part of a longer one (`eq_of_mem_encodeChar`); only
a byte order mark is read from the bytes of one (`eq_of_encode_mark`).
-/

namespace Periapsis.Utf8

theorem tail?_ofNat {n : Nat} (h : n < 64) : tail? (UInt8.ofNat (n + 0x80)) = some n := by
  have value : (UInt8.ofNat (n + 0x80)).toNat = n + 0x80 := by
    rw [UInt8.toNat_ofNat']; omega
  have low : (0x80 : UInt8) ≤ UInt8.ofNat (n + 0x80) := by
    rw [UInt8.le_iff_toNat_le, value]; exact Nat.le_add_left ..
  have high : UInt8.ofNat (n + 0x80) ≤ (0xBF : UInt8) := by
    rw [UInt8.le_iff_toNat_le, value]; show n + 0x80 ≤ 0xBF; omega
  rw [tail?, if_pos ⟨low, high⟩, value, Nat.add_sub_cancel]

theorem ofNat_lt_iff {n : Nat} (h : n < 256) (k : UInt8) : UInt8.ofNat n < k ↔ n < k.toNat := by
  rw [UInt8.lt_iff_toNat_lt, UInt8.toNat_ofNat', Nat.mod_eq_of_lt h]

theorem first?_one {n : Nat} (h : n < 0x80) (rest : List UInt8) :
    first? (UInt8.ofNat n :: rest) = some (Char.ofNat n, 1) := by
  have value : (UInt8.ofNat n).toNat = n := by rw [UInt8.toNat_ofNat']; omega
  rw [first?, if_pos ((ofNat_lt_iff (by omega) _).2 h), value]

theorem first?_two {n b : Nat} (low : 2 ≤ n) (high : n < 0x20) (hb : b < 0x40) (rest : List UInt8) :
    first? (UInt8.ofNat (n + 0xC0) :: UInt8.ofNat (b + 0x80) :: rest) =
      some (Char.ofNat (n * 0x40 + b), 2) := by
  have value : (UInt8.ofNat (n + 0xC0)).toNat = n + 0xC0 := by rw [UInt8.toNat_ofNat']; omega
  have lt k := ofNat_lt_iff (show n + 0xC0 < 256 by omega) k
  rw [first?, if_neg (by rw [lt]; show ¬ n + 0xC0 < 0x80; omega),
    if_neg (by rw [lt]; show ¬ n + 0xC0 < 0xC2; omega),
    if_pos (by rw [lt]; show n + 0xC0 < 0xE0; omega), value, Nat.add_sub_cancel]
  simp only [List.getElem?_cons_zero, Option.bind_eq_bind, Option.bind_some, tail?_ofNat hb]
  rfl

theorem first?_three {n b c : Nat} (high : n < 0x10) (hb : b < 0x40) (hc : c < 0x40)
    (size : 0x800 ≤ (n * 0x40 + b) * 0x40 + c)
    (noSurrogate : ¬ (0xD800 ≤ (n * 0x40 + b) * 0x40 + c ∧ (n * 0x40 + b) * 0x40 + c ≤ 0xDFFF))
    (rest : List UInt8) :
    first? (UInt8.ofNat (n + 0xE0) :: UInt8.ofNat (b + 0x80) :: UInt8.ofNat (c + 0x80) :: rest) =
      some (Char.ofNat ((n * 0x40 + b) * 0x40 + c), 3) := by
  have value : (UInt8.ofNat (n + 0xE0)).toNat = n + 0xE0 := by rw [UInt8.toNat_ofNat']; omega
  have lt k := ofNat_lt_iff (show n + 0xE0 < 256 by omega) k
  rw [first?, if_neg (by rw [lt]; show ¬ n + 0xE0 < 0x80; omega),
    if_neg (by rw [lt]; show ¬ n + 0xE0 < 0xC2; omega),
    if_neg (by rw [lt]; show ¬ n + 0xE0 < 0xE0; omega),
    if_pos (by rw [lt]; show n + 0xE0 < 0xF0; omega), value, Nat.add_sub_cancel]
  simp only [List.getElem?_cons_zero, List.getElem?_cons_succ, Option.bind_eq_bind,
    Option.bind_some, tail?_ofNat hb, tail?_ofNat hc, if_pos (And.intro size noSurrogate)]
  rfl

theorem first?_four {n b c d : Nat} (high : n < 5) (hb : b < 0x40) (hc : c < 0x40) (hd : d < 0x40)
    (size : 0x10000 ≤ ((n * 0x40 + b) * 0x40 + c) * 0x40 + d)
    (last : ((n * 0x40 + b) * 0x40 + c) * 0x40 + d ≤ 0x10FFFF) (rest : List UInt8) :
    first? (UInt8.ofNat (n + 0xF0) :: UInt8.ofNat (b + 0x80) :: UInt8.ofNat (c + 0x80) ::
      UInt8.ofNat (d + 0x80) :: rest) =
      some (Char.ofNat (((n * 0x40 + b) * 0x40 + c) * 0x40 + d), 4) := by
  have value : (UInt8.ofNat (n + 0xF0)).toNat = n + 0xF0 := by rw [UInt8.toNat_ofNat']; omega
  have lt k := ofNat_lt_iff (show n + 0xF0 < 256 by omega) k
  rw [first?, if_neg (by rw [lt]; show ¬ n + 0xF0 < 0x80; omega),
    if_neg (by rw [lt]; show ¬ n + 0xF0 < 0xC2; omega),
    if_neg (by rw [lt]; show ¬ n + 0xF0 < 0xE0; omega),
    if_neg (by rw [lt]; show ¬ n + 0xF0 < 0xF0; omega),
    if_pos (by rw [lt]; show n + 0xF0 < 0xF5; omega), value, Nat.add_sub_cancel]
  simp only [List.getElem?_cons_zero, List.getElem?_cons_succ, Option.bind_eq_bind,
    Option.bind_some, tail?_ofNat hb, tail?_ofNat hc, tail?_ofNat hd, if_pos (And.intro size last)]
  rfl

/-- A character is read from its bytes, whatever follows. -/
theorem first?_encode (c : Char) (rest : List UInt8) :
    first? (String.utf8EncodeChar c ++ rest) = some (c, (String.utf8EncodeChar c).length) := by
  have range : c.val.toNat < 0xD800 ∨ 0xDFFF < c.val.toNat ∧ c.val.toNat < 0x110000 := c.valid
  have back : Char.ofNat c.val.toNat = c := Char.ofNat_toNat c
  simp only [String.utf8EncodeChar]
  generalize c.val.toNat = v at range back ⊢
  split
  · rw [List.cons_append, first?_one (by omega), back]
    rfl
  split
  · rw [List.cons_append, List.cons_append, first?_two (by omega) (by omega) (by omega),
      show v / 64 % 0x20 * 0x40 + v % 0x40 = v by omega, back]
    rfl
  split
  · have whole : (v / 4096 % 0x10 * 0x40 + v / 64 % 0x40) * 0x40 + v % 0x40 = v := by omega
    rw [List.cons_append, List.cons_append, List.cons_append, first?_three (by omega) (by omega)
      (by omega) (by omega) (by omega), whole, back]
    rfl
  · have whole : ((v / 262144 % 0x08 * 0x40 + v / 4096 % 0x40) * 0x40 + v / 64 % 0x40) * 0x40
        + v % 0x40 = v := by omega
    rw [List.cons_append, List.cons_append, List.cons_append, List.cons_append, first?_four (by omega)
      (by omega) (by omega) (by omega) (by omega) (by omega), whole, back]
    rfl

/-! ## Single bytes -/

theorem encodeChar_ascii {c : Char} (h : c.toNat < 0x80) :
    String.utf8EncodeChar c = [UInt8.ofNat c.toNat] := by
  have small : c.val.toNat ≤ 0x7F := Nat.le_of_lt_succ h
  simp only [String.utf8EncodeChar, if_pos small]
  rfl

/-- A byte below 128 is the whole of its character. -/
theorem eq_of_mem_encodeChar {c : Char} {b : UInt8} (hb : b ∈ String.utf8EncodeChar c)
    (h : b.toNat < 0x80) : c = Char.ofNat b.toNat ∧ String.utf8EncodeChar c = [b] := by
  have lead {n k : Nat} (hk : 0x80 ≤ k) (hn : n + k < 256) : b ≠ UInt8.ofNat (n + k) := by
    rintro rfl
    rw [UInt8.toNat_ofNat', Nat.mod_eq_of_lt hn] at h
    omega
  by_cases small : c.toNat < 0x80
  · rw [encodeChar_ascii small, List.mem_singleton] at hb
    have value : b.toNat = c.toNat := by rw [hb, UInt8.toNat_ofNat']; omega
    rw [value, encodeChar_ascii small, hb]
    exact ⟨(Char.ofNat_toNat c).symm, rfl⟩
  · -- Every byte of a longer character has its highest bit set.
    have large : ¬ c.val.toNat ≤ 0x7F := fun le => small (Nat.lt_succ_of_le le)
    exfalso
    simp only [String.utf8EncodeChar, if_neg large] at hb
    split at hb
    · simp only [List.mem_cons, List.not_mem_nil, or_false] at hb
      rcases hb with hb | hb <;> exact lead (by omega) (by omega) hb
    split at hb
    · simp only [List.mem_cons, List.not_mem_nil, or_false] at hb
      rcases hb with hb | hb | hb <;> exact lead (by omega) (by omega) hb
    · simp only [List.mem_cons, List.not_mem_nil, or_false] at hb
      rcases hb with hb | hb | hb | hb <;> exact lead (by omega) (by omega) hb

/-! ## Texts -/

theorem encode_cons (c : Char) (text : List Char) :
    encode (c :: text) = String.utf8EncodeChar c ++ encode text :=
  List.flatMap_cons

theorem encode_append (s t : List Char) : encode (s ++ t) = encode s ++ encode t :=
  List.flatMap_append

theorem encode_eq_nil_iff (text : List Char) : encode text = [] ↔ text = [] := by
  cases text with
  | nil => exact ⟨fun _ => rfl, fun _ => rfl⟩
  | cons c text =>
    refine ⟨fun h => ?_, nofun⟩
    exact absurd (List.append_eq_nil_iff.1 h).1 String.utf8EncodeChar_ne_nil

theorem mem_encode {b : UInt8} {text : List Char} :
    b ∈ encode text ↔ ∃ c ∈ text, b ∈ String.utf8EncodeChar c :=
  List.mem_flatMap

theorem encodeChar_eq_cons (c : Char) : ∃ b bytes, String.utf8EncodeChar c = b :: bytes :=
  List.exists_cons_of_ne_nil String.utf8EncodeChar_ne_nil

theorem decodeFrom_skip (skipped rest : List UInt8) (text : List Char) (length : Nat) :
    decodeFrom skipped.length text length (skipped ++ rest) = decodeFrom 0 text length rest := by
  induction skipped with
  | nil => rfl
  | cons b skipped ih => rw [List.length_cons, List.cons_append, decodeFrom, ih]

theorem decodeFrom_encodeChar (c : Char) (text : List Char) (length : Nat) (rest : List UInt8) :
    decodeFrom 0 text length (String.utf8EncodeChar c ++ rest) =
      decodeFrom 0 (c :: text) (length + (String.utf8EncodeChar c).length) rest := by
  have first := first?_encode c rest
  obtain ⟨b, bytes, hb⟩ := encodeChar_eq_cons c
  rw [hb, List.cons_append] at first ⊢
  rw [decodeFrom, first]
  exact decodeFrom_skip bytes rest _ _

theorem decodeFrom_encode (text read : List Char) (length : Nat) :
    decodeFrom 0 read length (encode text) = .ok (read.reverse ++ text) := by
  induction text generalizing read length with
  | nil => rw [List.append_nil]; rfl
  | cons c text ih =>
    rw [encode_cons, decodeFrom_encodeChar, ih, List.reverse_cons, List.append_assoc]
    rfl

theorem decode_encode (text : List Char) : decode (encode text) = .ok text :=
  decodeFrom_encode text [] 0

theorem decodeFrom_eq_ok_iff (skip : Nat) (read : List Char) (length : Nat) {bytes : List UInt8}
    {text : List Char} :
    decodeFrom skip read length bytes = .ok text ↔
      ∃ rest, decodeFrom skip [] 0 bytes = .ok rest ∧ text = read.reverse ++ rest := by
  induction bytes generalizing skip read length text with
  | nil => simp [decodeFrom, eq_comm]
  | cons b bytes ih =>
    cases skip with
    | succ skip =>
      simp only [decodeFrom]
      exact ih skip read length
    | zero =>
      simp only [decodeFrom]
      cases first? (b :: bytes) with
      | none => simp
      | some first =>
        obtain ⟨c, size⟩ := first
        dsimp only
        simp only [ih _ (c :: read), ih _ [c], List.reverse_cons, List.append_assoc]
        constructor
        · rintro ⟨rest, found, same⟩
          exact ⟨_, ⟨rest, found, rfl⟩, same⟩
        · rintro ⟨_, ⟨rest, found, rfl⟩, same⟩
          exact ⟨rest, found, same⟩

/-- A byte below 128 in front of a text is a character in front of it. -/
theorem decode_cons {b : UInt8} (h : b.toNat < 0x80) {bytes : List UInt8} {text : List Char}
    (read : decode bytes = .ok text) : decode (b :: bytes) = .ok (Char.ofNat b.toNat :: text) := by
  have first : first? (b :: bytes) = some (Char.ofNat b.toNat, 1) := by
    rw [first?, if_pos (UInt8.lt_iff_toNat_lt.2 h)]
  rw [decode, decodeFrom, first]
  exact (decodeFrom_eq_ok_iff ..).2 ⟨text, read, rfl⟩

/-- The bytes of a byte order mark are those of no other character. -/
theorem eq_of_encode_mark {text : List Char} {rest : List UInt8}
    (h : encode text = 0xEF :: 0xBB :: 0xBF :: rest) : ∃ text', text = '\uFEFF' :: text' := by
  cases text with
  | nil => cases h
  | cons c text =>
    have mark : first? (0xEF :: 0xBB :: 0xBF :: rest) = some ('\uFEFF', 3) :=
      first?_three (n := 15) (b := 59) (c := 63) (by decide) (by decide) (by decide) (by decide)
        (by decide) rest
    have first := first?_encode c (encode text)
    rw [← encode_cons, h, mark, Option.some.injEq, Prod.mk.injEq] at first
    exact ⟨text, by rw [first.1]⟩

end Periapsis.Utf8
