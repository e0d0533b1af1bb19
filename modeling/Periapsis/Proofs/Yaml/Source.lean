import Periapsis.Proofs.Text.Utf8
import Periapsis.Yaml.Writer

/-!
# Characters of YAML files

A text without special characters is the source that is read from its own bytes
(`source_encode`). On a line such characters stand for themselves (`Inline`):
among them only the space is a blank, and none ends the line.
-/

namespace Periapsis.Yaml

/-! ## Characters -/

/-- A text is checked by its own characters, not by going through all there are. -/
theorem forall_mem_of_all {P : Char → Prop} [DecidablePred P] {text : List Char}
    (h : text.all (fun c => decide (P c)) = true) : ∀ c ∈ text, P c :=
  fun c hc => of_decide_eq_true (List.all_eq_true.1 h c hc)

theorem isSpecial_eq_false_iff (c : Char) :
    isSpecial c = false ↔ c.toNat = 0x0A ∨ (0x20 ≤ c.toNat ∧ c.toNat ≤ 0x7E) ∨
      (0xA0 ≤ c.toNat ∧ c.toNat ≤ 0xD7FF) ∨
      (0xE000 ≤ c.toNat ∧ c.toNat ≤ 0xFFFD ∧ c.toNat ≠ 0xFEFF) ∨ 0x10000 ≤ c.toNat := by
  simp only [isSpecial, Bool.not_eq_false', Bool.or_eq_true, Bool.and_eq_true, beq_iff_eq,
    decide_eq_true_eq, bne_iff_ne]
  omega

theorem isPermitted_of_isSpecial {c : Char} (h : isSpecial c = false) : isPermitted c = true := by
  rw [isSpecial_eq_false_iff] at h
  simp only [isPermitted, Bool.or_eq_true, Bool.and_eq_true, beq_iff_eq, decide_eq_true_eq]
  omega

theorem ne_of_isSpecial {c d : Char} (h : isSpecial c = false) (special : isSpecial d = true) :
    c ≠ d := by
  rintro rfl
  rw [h] at special
  cases special

/-- A character that stands for itself on a line: neither special nor the end of
a line. -/
def Inline (c : Char) : Prop :=
  isSpecial c = false ∧ isBreak c = false

instance (c : Char) : Decidable (Inline c) :=
  inferInstanceAs (Decidable (_ ∧ _))

/-- The characters from the space to the tilde stand for themselves. -/
theorem inline_of_range {c : Char} (low : 0x20 ≤ c.toNat) (high : c.toNat ≤ 0x7E) : Inline c := by
  have apart {d : Char} (hd : d.toNat < 0x20 ∨ 0x7E < d.toNat) : c ≠ d := fun e => by
    rw [e] at low high
    omega
  refine ⟨(isSpecial_eq_false_iff c).2 (.inr (.inl ⟨low, high⟩)), ?_⟩
  simp only [isBreak, Bool.or_eq_false_iff, beq_eq_false_iff_ne]
  exact ⟨⟨apart (by decide), apart (by decide)⟩, apart (by decide)⟩

namespace Inline

variable {c : Char}

theorem isSpace_eq (h : Inline c) : isSpace c = (c == ' ') := by
  have tab : (c == '\t') = false := beq_eq_false_iff_ne.2 (ne_of_isSpecial h.1 (by decide))
  rw [isSpace, tab, Bool.or_false]

theorem isWrittenBreak_eq_false (h : Inline c) : isWrittenBreak c = false := by
  have line : c ≠ '\n' := fun e => by
    rw [e] at h
    exact absurd h.2 (by decide)
  simp only [isWrittenBreak, Bool.or_eq_false_iff, beq_eq_false_iff_ne]
  exact ⟨⟨line, ne_of_isSpecial h.1 (by decide)⟩, ne_of_isSpecial h.1 (by decide)⟩

/-- Of these characters both the reader and the writer end a word at spaces. -/
theorem endsWord_eq (h : Inline c) (rest : List Char) : endsWord (c :: rest) = (c == ' ') := by
  rw [endsWord, h.isSpace_eq, h.2, Bool.or_false]

theorem endsWritten_eq (h : Inline c) (rest : List Char) : endsWritten (c :: rest) = (c == ' ') := by
  have null : (c == '\x00') = false := beq_eq_false_iff_ne.2 (ne_of_isSpecial h.1 (by decide))
  rw [endsWritten, h.isSpace_eq, h.isWrittenBreak_eq_false, null, Bool.or_false, Bool.or_false]

end Inline

/-- The Unicode separators end a line for the reader only. -/
def NoSeparators (text : List Char) : Prop :=
  ∀ c ∈ text, c ≠ '\u2028' ∧ c ≠ '\u2029'

instance (text : List Char) : Decidable (NoSeparators text) :=
  List.decidableBAll _ text

theorem inline_of_ne {c : Char} (special : isSpecial c = false) (line : c ≠ '\n')
    (noSeparator : c ≠ '\u2028' ∧ c ≠ '\u2029') : Inline c := by
  refine ⟨special, ?_⟩
  simp only [isBreak, Bool.or_eq_false_iff, beq_eq_false_iff_ne]
  exact ⟨⟨line, noSeparator.1⟩, noSeparator.2⟩

/-! ## Sources -/

/-- Nothing but characters that may stand in a source as they are. -/
def NoSpecials (text : List Char) : Prop :=
  ∀ c ∈ text, isSpecial c = false

instance (text : List Char) : Decidable (NoSpecials text) :=
  List.decidableBAll _ text

theorem noSpecials_append {s t : List Char} : NoSpecials (s ++ t) ↔ NoSpecials s ∧ NoSpecials t :=
  List.forall_mem_append

theorem noSpecials_cons {c : Char} {text : List Char} :
    NoSpecials (c :: text) ↔ isSpecial c = false ∧ NoSpecials text :=
  List.forall_mem_cons

theorem noSpecials_replicate (n : Nat) {c : Char} (h : isSpecial c = false) :
    NoSpecials (List.replicate n c) :=
  fun _ hd => List.eq_of_mem_replicate hd ▸ h

theorem unifyBreaks_eq_append {text : List Char} (h : NoSpecials text)
    (read : List Char) : unifyBreaks read false text = read.reverse ++ text := by
  induction text generalizing read with
  | nil => rw [unifyBreaks, List.append_nil]
  | cons c text ih =>
    obtain ⟨hc, rest⟩ := List.forall_mem_cons.1 h
    rw [unifyBreaks, if_neg (by simp), if_neg (ne_of_isSpecial hc (by decide)),
      if_neg (ne_of_isSpecial hc (by decide)), ih rest, List.reverse_cons, List.append_assoc]
    rfl

/-- A text without special characters is read from its bytes as it is. -/
theorem source_encode {text : List Char} (h : NoSpecials text) :
    source (Utf8.encode text) = some text := by
  have permitted : text.all isPermitted = true :=
    List.all_eq_true.2 fun c hc => isPermitted_of_isSpecial (h c hc)
  rw [source, Utf8.decode_encode]
  dsimp only
  rw [if_pos permitted, unifyBreaks_eq_append h]
  rfl

/-! ## Marks -/

/-- Behind a text without line breaks. -/
def Mark.along (m : Mark) (text : List Char) : Mark :=
  ⟨m.line, m.column + text.length, m.byte + (Utf8.encode text).length⟩

theorem Mark.along_nil (m : Mark) : m.along [] = m :=
  rfl

theorem Mark.along_cons (m : Mark) (c : Char) (text : List Char) :
    m.along (c :: text) = (m.past c).along text := by
  simp only [along, past, Utf8.encode_cons, List.length_append, List.length_cons,
    String.length_utf8EncodeChar, Mark.mk.injEq, true_and]
  omega

theorem Mark.along_append (m : Mark) (s t : List Char) :
    m.along (s ++ t) = (m.along s).along t := by
  simp only [along, Utf8.encode_append, List.length_append, Mark.mk.injEq, true_and]
  omega

theorem Mark.next_eq_past (m : Mark) {c : Char} (h : c.utf8Size = 1) : m.next = m.past c := by
  rw [next, past, h]

end Periapsis.Yaml
