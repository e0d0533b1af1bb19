import Periapsis.Proofs.Yaml.Block
import Periapsis.Proofs.Yaml.Scan
import Periapsis.Proofs.Yaml.Value

/-!
# Written scalars as tokens

A text in one line is written plain or in quotes (`Written`), and either way a
scan finds it as one token: as a key, up to the colon (`token_key`), and at the
end of a line (`token_line`).
-/

namespace Periapsis.Yaml

/-- A text in one line, what is written for it, and whether that is plain. -/
inductive Written : List Char → List Char → Bool → Prop where
  | plain {text : List Char} : PlainText text → Written text text true
  | single {text : List Char} : (∀ c ∈ text, Inline c) → Written text (writeSingle text) false
  | double {text : List Char} : NoSeparators text → Written text (writeDouble text) false

theorem inline_of_notSpecial {text : List Char} (noSeparators : NoSeparators text)
    (oneLine : text.contains '\n' = false) (special : text.any isSpecial = false) :
    ∀ c ∈ text, Inline c := by
  intro c hc
  refine inline_of_ne (by simpa using List.any_eq_false.1 special c hc) (fun line => ?_)
    (noSeparators c hc)
  rw [← line, List.contains_iff_mem.2 hc] at oneLine
  cases oneLine

/-- A text in one line is written as one. -/
theorem written_writeScalar {text : List Char} (noSeparators : NoSeparators text)
    (oneLine : Style.of text ≠ .literal) (indent : Nat) :
    Written text (writeScalar indent text) (decide (Style.of text = .plain)) := by
  revert oneLine
  unfold writeScalar
  fun_cases Style.of text with
  | case1 => exact fun literal => absurd rfl literal
  | case2 => exact fun _ => .double noSeparators
  | case3 _ other => exact fun _ => .single (inline_of_isOther other)
  | case4 _ other allowed =>
    refine fun _ => .plain (.of_plainAllowed allowed (fun nil => ?_) noSeparators)
    rw [nil] at other
    exact other (by decide)
  | case5 oneLine _ _ allowed =>
    simp only [singleAllowed, Bool.not_eq_true', Bool.or_eq_false_iff] at allowed
    exact fun _ => .single (inline_of_notSpecial noSeparators (by simpa using oneLine) allowed.1)
  | case6 => exact fun _ => .double noSeparators

theorem literal_iff (text : List Char) :
    Style.of text = .literal ↔ '\n' ∈ text ∧ literalAllowed text = true := by
  rw [← List.contains_iff_mem]
  fun_cases Style.of text <;> simp_all

theorem chars_of_literal {text : List Char} (noSeparators : NoSeparators text)
    (literal : Style.of text = .literal) : text ≠ [] ∧ ∀ c ∈ text, c = '\n' ∨ Inline c := by
  obtain ⟨lines, allowed⟩ := (literal_iff text).1 literal
  simp only [literalAllowed, Bool.not_eq_true', Bool.or_eq_false_iff] at allowed
  refine ⟨List.ne_nil_of_mem lines, fun c hc => ?_⟩
  by_cases line : c = '\n'
  · exact .inl line
  · exact .inr (inline_of_ne (by simpa using List.any_eq_false.1 allowed.1.1 c hc) line
      (noSeparators c hc))

/-! ## Characters -/

theorem inline_hexDigits (width n : Nat) : ∀ c ∈ hexDigits width n, Inline c := by
  intro c hc
  obtain ⟨d, digit⟩ := exists_hexValue?_of_codeValue? (codeValue?_hexDigits width n) c hc
  exact inline_of_hexValue? digit

theorem inline_escapeDouble {c : Char} (noSeparator : c ≠ '\u2028' ∧ c ≠ '\u2029') :
    ∀ d ∈ escapeDouble c, Inline d := by
  unfold escapeDouble
  split
  case h_13 =>
    rename_i line _ _ _ _ _ _ _
    have hex {x : Char} (hx : Inline x) (width : Nat) :
        ∀ d ∈ '\\' :: x :: hexDigits width c.toNat, Inline d :=
      List.forall_mem_cons.2 ⟨by decide, List.forall_mem_cons.2 ⟨hx, inline_hexDigits width _⟩⟩
    split
    · rename_i plain
      rw [List.forall_mem_singleton]
      exact inline_of_ne (by simpa using plain) line noSeparator
    split
    · exact hex (by decide) 2
    · exact hex (by decide) 4
  all_goals exact forall_mem_of_all (by decide)

/-- Written text stays in its line. -/
theorem Written.inline {text written : List Char} {plain : Bool} (h : Written text written plain) :
    ∀ c ∈ written, Inline c := by
  cases h with
  | plain h => exact h.inline
  | single h =>
    rw [writeSingle_eq, List.forall_mem_cons, List.forall_mem_append, List.forall_mem_singleton]
    refine ⟨by decide, fun d hd => ?_, by decide⟩
    obtain ⟨c, hc, hd⟩ := List.mem_flatMap.1 hd
    have quotes : ∀ d ∈ ['\'', '\''], Inline d := forall_mem_of_all (by decide)
    unfold escapeSingle at hd
    split at hd
    · exact quotes d hd
    · rw [List.mem_singleton.1 hd]
      exact h c hc
  | double h =>
    rw [writeDouble_eq, List.forall_mem_cons, List.forall_mem_append, List.forall_mem_singleton]
    refine ⟨by decide, fun d hd => ?_, by decide⟩
    obtain ⟨c, hc, hd⟩ := List.mem_flatMap.1 hd
    exact inline_escapeDouble (h c hc) d hd

theorem Written.noSpecials {text written : List Char} {plain : Bool}
    (h : Written text written plain) : NoSpecials written :=
  fun c hc => (h.inline c hc).1

theorem Written.exists_cons {text written : List Char} {plain : Bool}
    (h : Written text written plain) :
    ∃ c rest, written = c :: rest ∧ c ≠ ' ' ∧ c ≠ '#' := by
  cases h with
  | plain h =>
    obtain ⟨c, rest, rfl⟩ := List.exists_cons_of_ne_nil h.ne_nil
    refine ⟨c, rest, rfl, fun space => h.head (by rw [space]; rfl), fun number => ?_⟩
    have indicator := h.indicator
    rw [number] at indicator
    simp [hasIndicator] at indicator
  | single => exact ⟨'\'', _, rfl, by decide, by decide⟩
  | double => exact ⟨'"', _, rfl, by decide, by decide⟩

theorem Written.ready {text written : List Char} {plain : Bool} (h : Written text written plain)
    (tail : List Char) : Ready (written ++ tail) := by
  obtain ⟨c, rest, same, noSpace, noComment⟩ := h.exists_cons
  have inline := h.inline c (by rw [same]; exact List.mem_cons_self)
  rw [same]
  exact .cons ⟨inline, noSpace, noComment⟩

theorem ready_writeText {text : List Char} (noSeparators : NoSeparators text) (indent : Nat)
    (tail : List Char) : Ready (writeText indent text ++ tail) := by
  unfold writeText
  split
  · rw [writeLiteral_eq]
    exact .cons (by decide)
  · rename_i oneLine
    rw [List.append_assoc]
    exact (written_writeScalar noSeparators oneLine indent).ready _

/-- A written text has no special characters, whatever is in it. -/
theorem noSpecials_writeText {text : List Char} (noSeparators : NoSeparators text) (indent : Nat) :
    NoSpecials (writeText indent text) := by
  unfold writeText
  split
  · rename_i literal
    obtain ⟨-, chars⟩ := chars_of_literal noSeparators literal
    refine noSpecials_writeLiteral indent fun c hc => ?_
    rcases chars c hc with rfl | inline
    · decide
    · exact inline.1
  · rename_i oneLine
    have written := written_writeScalar noSeparators oneLine indent
    exact noSpecials_append.2 ⟨written.noSpecials, by decide⟩

/-! ## Lengths -/

theorem length_encode_cons (c : Char) (text : List Char) :
    (Utf8.encode (c :: text)).length = c.utf8Size + (Utf8.encode text).length := by
  rw [Utf8.encode_cons, List.length_append, String.length_utf8EncodeChar]

theorem length_encode_singleton (c : Char) : (Utf8.encode [c]).length = c.utf8Size :=
  length_encode_cons c []

theorem length_encode_of_ascii {text : List Char} (h : ∀ c ∈ text, c.utf8Size = 1) :
    (Utf8.encode text).length = text.length := by
  induction text with
  | nil => rfl
  | cons c text ih =>
    obtain ⟨hc, rest⟩ := List.forall_mem_cons.1 h
    rw [length_encode_cons, hc, ih rest, List.length_cons, Nat.add_comm]

theorem length_encode_flatMap_le {write : Char → List Char} {text : List Char}
    (h : ∀ c ∈ text, (Utf8.encode (write c)).length ≤ 4 * c.utf8Size) :
    (Utf8.encode (text.flatMap write)).length ≤ 4 * (Utf8.encode text).length := by
  induction text with
  | nil => exact Nat.le_refl _
  | cons c text ih =>
    obtain ⟨hc, rest⟩ := List.forall_mem_cons.1 h
    have := ih rest
    rw [List.flatMap_cons, Utf8.encode_append, List.length_append, length_encode_cons]
    omega

theorem length_encode_escapeSingle (c : Char) :
    (Utf8.encode (escapeSingle c)).length ≤ 4 * c.utf8Size := by
  unfold escapeSingle
  split
  · rename_i quote
    rw [quote]
    decide
  · rw [length_encode_singleton]
    omega

theorem length_encode_escapeDouble (c : Char) :
    (Utf8.encode (escapeDouble c)).length ≤ 4 * c.utf8Size := by
  have positive : 0 < c.utf8Size := c.utf8Size_pos
  unfold escapeDouble
  split
  case h_13 =>
    have digits (width : Nat) : ∀ d ∈ hexDigits width c.toNat, d.utf8Size = 1 := fun d hd => by
      obtain ⟨value, digit⟩ := exists_hexValue?_of_codeValue? (codeValue?_hexDigits width _) d hd
      exact utf8Size_of_hexValue? digit
    have code {x : Char} (hx : x.utf8Size = 1) (width : Nat) (positive : 0 < width)
        (fits : c.toNat < Nat.pow 16 width) :
        (Utf8.encode ('\\' :: x :: hexDigits width c.toNat)).length = width + 2 := by
      rw [length_encode_of_ascii (List.forall_mem_cons.2 ⟨by decide,
        List.forall_mem_cons.2 ⟨hx, digits width⟩⟩), List.length_cons, List.length_cons,
        length_hexDigits positive fits]
    split
    · rw [length_encode_singleton]
      omega
    rename_i special
    split
    · rename_i short
      rw [code (x := 'x') rfl 2 (by decide) short]
      omega
    · rename_i long
      have wide : c.utf8Size ≠ 1 := fun one => by
        have ascii := Char.utf8Size_eq_one_iff.1 one
        rw [UInt32.le_iff_toNat_le] at ascii
        have : c.toNat ≤ 127 := ascii
        omega
      rw [code (x := 'u') rfl 4 (by decide) (toNat_lt_of_isSpecial (by simpa using special))]
      omega
  all_goals
    refine Nat.le_trans ?_ (Nat.mul_le_mul_left 4 positive)
    decide

/-- A text takes at most four times its bytes, and the quotes. -/
theorem Written.length_encode_le {text written : List Char} {plain : Bool}
    (h : Written text written plain) :
    (Utf8.encode written).length ≤ 4 * (Utf8.encode text).length + 2 := by
  cases h with
  | plain => omega
  | single =>
    have body : (Utf8.encode (text.flatMap escapeSingle)).length ≤ 4 * (Utf8.encode text).length :=
      length_encode_flatMap_le fun c _ => length_encode_escapeSingle c
    rw [writeSingle_eq, ← List.singleton_append, Utf8.encode_append, Utf8.encode_append,
      List.length_append, List.length_append]
    show 1 + (_ + 1) ≤ _
    omega
  | double =>
    have body : (Utf8.encode (text.flatMap escapeDouble)).length ≤ 4 * (Utf8.encode text).length :=
      length_encode_flatMap_le fun c _ => length_encode_escapeDouble c
    rw [writeDouble_eq, ← List.singleton_append, Utf8.encode_append, Utf8.encode_append,
      List.length_append, List.length_append]
    show 1 + (_ + 1) ≤ _
    omega

/-! ## Tokens -/

namespace Scan

variable {s : Scan}

/-- A scan that has noted that a key may start here, if it may. -/
def noted (s : Scan) : Scan :=
  { s with
    candidate := if s.keyAllowed then some {
        mark := s.mark, tokens := s.count
        required := !s.inFlow && s.indent == (s.mark.column : Int) }
      else none }

theorem noteCandidate_eq (none : s.candidate = none) : s.noteCandidate = some s.noted := by
  have dropped : s.dropCandidate = some s := by rw [dropCandidate, none]
  unfold noteCandidate noted
  rw [dropped]
  split
  · rfl
  · rw [← none]

end Scan

/-- What a plain text does not start with. -/
theorem PlainText.first {c : Char} {rest : List Char} (h : PlainText (c :: rest)) :
    c ∉ "#,[]\x7b\x7d&*!|>'\"%@\x60".toList ∧ (c ∈ "?:-".toList → endsWritten rest = false) := by
  have indicator := h.indicator
  unfold hasIndicator at indicator
  split at indicator
  · cases indicator
  · cases indicator
  · rename_i c rest _ _ same
    cases same
    simp only [String.contains_char_eq, Bool.or_eq_false_iff, decide_eq_false_iff_not,
      Bool.and_eq_false_imp, decide_eq_true_eq] at indicator
    exact indicator
  · rename_i same
    cases same

namespace Scan

variable {s : Scan} {text written tail : List Char}

/-- A sign at the start of a plain text does not end a word. -/
theorem endsWord_of_plainText {c : Char} {rest : List Char} (h : PlainText (c :: rest))
    (mem : c ∈ "?:-".toList) : endsWord (rest ++ tail) = false :=
  endsWord_append (List.forall_mem_cons.1 h.inline).2 (h.first.2 mem) tail

theorem startsPlain_of_plainText {c : Char} {rest : List Char} (h : PlainText (c :: rest))
    (block : s.suspended = []) : s.startsPlain c (rest ++ tail) = true := by
  have apart {d : Char} (mem : d ∈ "#,[]\x7b\x7d&*!|>'\"%@\x60".toList) : c ≠ d :=
    fun same => h.first.1 (same ▸ mem)
  have noSpace : c ≠ ' ' := fun same => h.head (by rw [same]; rfl)
  have noTab : c ≠ '\t' := ne_of_isSpecial (h.inline c List.mem_cons_self).1 (by decide)
  have word (mem : c ∈ "?:-".toList) : endsWord (rest ++ tail) = false := endsWord_of_plainText h mem
  unfold startsPlain
  split
  · have inWord := word (by decide)
    cases following : rest ++ tail with
    | nil => rfl
    | cons d following' =>
      rw [following, endsWord, Bool.or_eq_false_iff] at inWord
      simp [inWord.1]
  · rw [inFlow_of_block block, word (by decide)]
    rfl
  · rw [inFlow_of_block block, word (by decide)]
    rfl
  · exact absurd rfl noSpace
  · exact absurd rfl noTab
  all_goals first | rfl | exact (apart (by decide) rfl).elim

/-- Plain text starts as such. -/
theorem token_eq_plainScalar {c : Char} {rest : List Char} (h : PlainText (c :: rest))
    (block : s.suspended = []) (noMark : isDocumentMark (c :: (rest ++ tail)) = false) :
    s.token c (rest ++ tail) = s.plainScalar (c :: (rest ++ tail)) := by
  have noWord {d : Char} (mem : d ∈ "?:-".toList) :
      ¬ (c = d ∧ endsWord (rest ++ tail) = true) := by
    rintro ⟨rfl, ends⟩
    rw [endsWord_of_plainText h mem] at ends
    cases ends
  have noFlow (d : Char) (none : ¬ (c = d ∧ endsWord (rest ++ tail) = true)) :
      ¬ (c = d ∧ (s.inFlow = true ∨ endsWord (rest ++ tail) = true)) := by
    rw [inFlow_of_block block]
    simpa using none
  have apart {d : Char} (mem : d ∈ "#,[]\x7b\x7d&*!|>'\"%@\x60".toList) : c ≠ d :=
    fun same => h.first.1 (same ▸ mem)
  unfold token
  rw [noMark, if_neg (fun h => Bool.false_ne_true h.2)]
  split
  case h_8 =>
    rw [if_neg (noWord (by decide)), if_neg (noFlow '?' (noWord (by decide))),
      if_neg (noFlow ':' (noWord (by decide))), if_neg (fun h => apart (by decide) h.1),
      if_neg (fun h => apart (by decide) h.1), startsPlain_of_plainText h block, if_pos rfl]
  all_goals exact absurd (by decide) h.first.1

theorem token_plain (h : PlainText text) (block : s.suspended = []) (none : s.candidate = none)
    (noMark : isDocumentMark (text ++ tail) = false) {read : Scanned}
    (found : plain false (s.indent + 1) [] .empty true s.mark (text ++ tail) = some read) :
    ∃ c rest, text ++ tail = c :: rest ∧ s.token c rest = some (s.noted.addScalar true read) := by
  obtain ⟨c, rest, rfl⟩ := List.exists_cons_of_ne_nil h.ne_nil
  have outside : s.noted.inFlow = false := inFlow_of_block block
  refine ⟨c, rest ++ tail, rfl, ?_⟩
  rw [token_eq_plainScalar h block noMark, plainScalar, noteCandidate_eq none, Option.bind_eq_bind,
    Option.bind_some, outside]
  show (plain false (s.indent + 1) [] .empty true s.mark (c :: (rest ++ tail))).bind _ = _
  rw [← List.cons_append, found]
  rfl

theorem token_single (s : Scan) (tail : List Char) (inline : ∀ c ∈ text, Inline c)
    (none : s.candidate = none) (single : tail.head? ≠ some '\'') :
    ∃ c rest, writeSingle text ++ tail = c :: rest ∧ s.token c rest =
      some (s.noted.addScalar false ⟨text, tail, s.mark.along (writeSingle text), false⟩) := by
  refine ⟨'\'', text.flatMap escapeSingle ++ '\'' :: tail, by simp [writeSingle_eq], ?_⟩
  have token (rest : List Char) : s.token '\'' rest = s.quotedScalar true rest :=
    if_neg fun h => nomatch h.2
  rw [token, quotedScalar, noteCandidate_eq none, Option.bind_eq_bind, Option.bind_some]
  show (quoted true [] .empty .text s.mark.next _).bind _ = _
  rw [quoted_writeSingle tail inline single]
  rfl

theorem token_double (s : Scan) (tail : List Char) (noSeparators : NoSeparators text)
    (none : s.candidate = none) :
    ∃ c rest, writeDouble text ++ tail = c :: rest ∧ s.token c rest =
      some (s.noted.addScalar false ⟨text, tail, s.mark.along (writeDouble text), false⟩) := by
  refine ⟨'"', text.flatMap escapeDouble ++ '"' :: tail, by simp [writeDouble_eq], ?_⟩
  have token (rest : List Char) : s.token '"' rest = s.quotedScalar false rest :=
    if_neg fun h => nomatch h.2
  rw [token, quotedScalar, noteCandidate_eq none, Option.bind_eq_bind, Option.bind_some]
  show (quoted false [] .empty .text s.mark.next _).bind _ = _
  rw [quoted_writeDouble tail noSeparators]
  rfl

/-- A key is one token, up to its colon. -/
theorem token_key {plain : Bool} (h : Written text written plain) (block : s.suspended = [])
    (none : s.candidate = none) {rest : List Char} (word : endsWord rest = true) :
    ∃ c later, written ++ ':' :: rest = c :: later ∧ s.token c later =
      some (s.noted.addScalar plain ⟨text, ':' :: rest, s.mark.along written, false⟩) := by
  cases h with
  | plain h =>
    have noMark := h.noMark (.inl rfl) rest
    exact token_plain h block none noMark (h.plain_key _ _ word fun _ => noMark)
  | single h => exact token_single _ _ h none (by simp)
  | double h => exact token_double _ _ h none

/-- A text at the end of a line is one token. With plain text the end of the
line is read, too. -/
theorem token_line {plain : Bool} (h : Written text written plain) (block : s.suspended = [])
    (none : s.candidate = none) {k : Nat} (ready : Ready tail) (short : (k : Int) ≤ s.indent) :
    ∃ c later read, written ++ '\n' :: (List.replicate k ' ' ++ tail) = c :: later ∧
      s.token c later = some (s.noted.addScalar plain read) ∧ read.text = text ∧
      (read.rest = tail ∧ read.mark = ⟨s.mark.line + 1, k, k⟩ ∧ read.newline = true ∨
        read.rest = '\n' :: (List.replicate k ' ' ++ tail) ∧
          read.mark.line + 1 = s.mark.line + 1) := by
  cases h with
  | plain h =>
    have noMark := h.noMark (.inr rfl) (List.replicate k ' ' ++ tail)
    obtain ⟨c, later, same, token⟩ := token_plain h block none noMark
      (h.plain_line s.mark ready (show (k : Int) < s.indent + 1 by omega) fun _ => noMark)
    exact ⟨c, later, _, same, token, rfl, .inl ⟨rfl, rfl, rfl⟩⟩
  | single h =>
    obtain ⟨c, later, same, token⟩ := token_single s
      ('\n' :: (List.replicate k ' ' ++ tail)) h none (by simp)
    exact ⟨c, later, _, same, token, rfl, .inr ⟨rfl, rfl⟩⟩
  | double h =>
    obtain ⟨c, later, same, token⟩ := token_double s
      ('\n' :: (List.replicate k ' ' ++ tail)) h none
    exact ⟨c, later, _, same, token, rfl, .inr ⟨rfl, rfl⟩⟩

end Scan

end Periapsis.Yaml
