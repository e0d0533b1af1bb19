import Periapsis.Proofs.Yaml.Source

/-!
# Plain text, read again

A text that may be written plain (`PlainText`) is read as it stands. Inside of a
line nothing ends it (`plain_append`); what ends it is the colon of a key
(`plain_key`), or a next line that is not indented enough (`plain_line`).
-/

namespace Periapsis.Yaml

/-- What may be written plain, if the reader ends lines where the writer does. -/
structure PlainText (text : List Char) : Prop where
  ne_nil : text ≠ []
  inline : ∀ c ∈ text, Inline c
  indicator : hasIndicator text = false
  markup : hasMarkup false text = false
  head : text.head? ≠ some ' '
  last : text.getLast? ≠ some ' '

theorem PlainText.of_plainAllowed {text : List Char} (h : plainAllowed text = true)
    (ne_nil : text ≠ []) (noSeparators : NoSeparators text) : PlainText text := by
  simp only [plainAllowed, Bool.not_eq_true', Bool.or_eq_false_iff, beq_eq_false_iff_ne] at h
  obtain ⟨⟨⟨⟨⟨indicator, markup⟩, head⟩, last⟩, special⟩, breaks⟩ := h
  refine ⟨ne_nil, fun c hc => ?_, indicator, markup, head, last⟩
  have written : isWrittenBreak c = false := by simpa using List.any_eq_false.1 breaks c hc
  refine inline_of_ne (by simpa using List.any_eq_false.1 special c hc) (fun line => ?_)
    (noSeparators c hc)
  rw [line] at written
  cases written

/-! ## Inside of a line -/

/-- The end of a word in a text is one in the file, if the text is not over. -/
theorem endsWord_append {text : List Char} (inline : ∀ c ∈ text, Inline c)
    (h : endsWritten text = false) (tail : List Char) : endsWord (text ++ tail) = false := by
  cases text with
  | nil => cases h
  | cons c text =>
    have hc := inline c List.mem_cons_self
    rw [hc.endsWritten_eq] at h
    rw [List.cons_append, hc.endsWord_eq, h]

/-- Text of a line is read to its end if it does not end in a space. Of the
flags, `fresh` is that of the reader and `ended` that of the writer. -/
theorem plain_append {text : List Char} (inline : ∀ c ∈ text, Inline c)
    (last : text.getLast? ≠ some ' ') (indent : Int) (read spaces tail : List Char)
    (fresh ended : Bool) (m : Mark) (markup : hasMarkup ended text = false)
    (comment : fresh = true → ended = false → text.head? ≠ some '#')
    (noMark : m.column = 0 → isDocumentMark (text ++ tail) = false)
    (whole : text = [] → spaces = [] ∧ fresh = false) :
    plain false indent read (.spaces spaces) fresh m (text ++ tail) =
      plain false indent (text.reverse ++ (spaces ++ read)) .empty false (m.along text) tail := by
  induction text generalizing read spaces fresh ended m with
  | nil =>
    obtain ⟨rfl, rfl⟩ := whole rfl
    rfl
  | cons c text ih =>
    obtain ⟨hc, inline'⟩ := List.forall_mem_cons.1 inline
    simp only [hasMarkup, Bool.or_eq_false_iff] at markup
    obtain ⟨⟨colon, number⟩, markup⟩ := markup
    have last' : text.getLast? ≠ some ' ' := fun h => last (by rw [List.getLast?_cons, h]; rfl)
    have noMark' (m : Mark) : (m.past c).column = 0 → isDocumentMark (text ++ tail) = false := nofun
    rw [List.cons_append, plain, hc.isSpace_eq, Mark.along_cons]
    by_cases space : c = ' '
    · subst space
      -- A space waits for the next word, and there is one.
      have more : text ≠ [] := fun h => last (by rw [h]; rfl)
      rw [if_pos (beq_self_eq_true _), if_neg (fun h => nomatch h.1),
        Mark.next_eq_past m (c := ' ') rfl]
      rw [Joint.space, ih inline' last' _ _ true _ _ markup (fun _ => nofun) (noMark' m)
        fun h => absurd h more]
      rw [List.reverse_cons, List.append_assoc]
      rfl
    · have noComment : ¬ (fresh = true ∧ c = '#') := by
        rintro ⟨isFresh, rfl⟩
        cases ended with
        | true => cases number
        | false => exact comment isFresh rfl rfl
      have noColon : ¬ (c = ':' ∧ endsWord (text ++ tail) = true) := by
        rintro ⟨rfl, word⟩
        rw [beq_self_eq_true, Bool.true_and] at colon
        rw [endsWord_append inline' colon] at word
        cases word
      have noMark : ¬ (m.column = 0 ∧ isDocumentMark (c :: (text ++ tail)) = true) := by
        rintro ⟨start, mark⟩
        rw [← List.cons_append, noMark start] at mark
        cases mark
      rw [if_neg (by simpa using space), hc.2, if_neg Bool.false_ne_true]
      dsimp only
      rw [if_neg, if_neg (by simp), if_neg (by simpa using noColon)]
      · show plain false indent (c :: (spaces ++ read)) (.spaces []) false (m.past c) _ = _
        rw [ih inline' last' _ _ false _ _ markup nofun (noMark' m) fun _ => ⟨rfl, rfl⟩,
          List.reverse_cons, List.append_assoc]
        rfl
      · rintro ⟨isFresh, isComment | isMark | ⟨-, -, newline⟩⟩
        · exact noComment ⟨isFresh, isComment⟩
        · exact noMark isMark
        · cases newline

variable {text : List Char}

theorem PlainText.append (h : PlainText text) (indent : Int) (m : Mark) (tail : List Char)
    (noMark : m.column = 0 → isDocumentMark (text ++ tail) = false) :
    plain false indent [] .empty true m (text ++ tail) =
      plain false indent text.reverse .empty false (m.along text) tail := by
  have comment : text.head? ≠ some '#' := by
    intro start
    obtain ⟨rest, rfl⟩ : ∃ rest, text = '#' :: rest := by
      cases text with
      | nil => cases start
      | cons c rest => cases start; exact ⟨rest, rfl⟩
    have indicator := h.indicator
    simp [hasIndicator] at indicator
  have read := plain_append h.inline h.last indent [] [] tail true false m h.markup
    (fun _ _ => comment) noMark (fun nil => absurd nil h.ne_nil)
  rwa [List.append_nil, List.append_nil] at read

/-- In front of a colon or a line break it is no document mark. -/
theorem PlainText.noMark (h : PlainText text) {d : Char} (hd : d = ':' ∨ d = '\n')
    (rest : List Char) : isDocumentMark (text ++ d :: rest) = false := by
  have indicator := h.indicator
  rcases text with _ | ⟨a, _ | ⟨b, _ | ⟨c, more⟩⟩⟩
  · exact absurd rfl h.ne_nil
  · unfold isDocumentMark
    rcases hd with rfl | rfl <;> split <;> simp_all
  · unfold isDocumentMark
    rcases hd with rfl | rfl <;> split <;> simp_all
  · unfold isDocumentMark
    split <;> simp_all [hasIndicator]

/-! ## What ends a text -/

/-- The colon of a key ends it. -/
theorem PlainText.plain_key (h : PlainText text) (indent : Int) (m : Mark) {rest : List Char}
    (word : endsWord rest = true)
    (noMark : m.column = 0 → isDocumentMark (text ++ ':' :: rest) = false) :
    plain false indent [] .empty true m (text ++ ':' :: rest) =
      some ⟨text, ':' :: rest, m.along text, false⟩ := by
  rw [h.append indent m _ noMark]
  simp [plain, isSpace, isBreak, word, Joint.isNewline, Joint.empty]

/-- What a line may start with: nothing, or anything but a blank or a comment. -/
def Ready (rest : List Char) : Prop :=
  ∀ c ∈ rest.head?, Inline c ∧ c ≠ ' ' ∧ c ≠ '#'

theorem Ready.cons {c : Char} {rest : List Char} (h : Inline c ∧ c ≠ ' ' ∧ c ≠ '#') :
    Ready (c :: rest) := by
  intro d hd
  cases hd
  exact h

/-- A next line ends a text if it is not indented enough. -/
theorem plain_lines {tail : List Char} (ready : Ready tail) {indent : Int} (read : List Char)
    (first : Char) (more : List Char) (m : Mark) {k : Nat} (short : (m.column + k : Int) < indent) :
    plain false indent read (.lines first more) true m (List.replicate k ' ' ++ tail) =
      some ⟨read.reverse, tail, ⟨m.line, m.column + k, m.byte + k⟩, true⟩ := by
  induction k generalizing m with
  | zero =>
    cases tail with
    | nil => rfl
    | cons c rest =>
      obtain ⟨inline, noSpace, -⟩ := ready c rfl
      have outside : (m.column : Int) < indent := by omega
      simp [plain, inline.isSpace_eq, inline.2, noSpace, outside, Joint.isNewline]
  | succ k ih =>
    have short' : ((m.next.column : Int) + k : Int) < indent := by
      show ((m.column + 1 : Nat) + k : Int) < indent
      omega
    rw [List.replicate_succ, List.cons_append, plain, if_pos (by decide), if_neg (by simp)]
    show plain false indent read (.lines first more) true m.next _ = _
    rw [ih m.next short']
    simp only [Mark.next, Option.some.injEq, Scanned.mk.injEq, Mark.mk.injEq, true_and, and_true]
    omega

theorem PlainText.plain_line (h : PlainText text) {indent : Int} (m : Mark) {k : Nat}
    {tail : List Char} (ready : Ready tail) (short : (k : Int) < indent)
    (noMark : m.column = 0 →
      isDocumentMark (text ++ '\n' :: (List.replicate k ' ' ++ tail)) = false) :
    plain false indent [] .empty true m (text ++ '\n' :: (List.replicate k ' ' ++ tail)) =
      some ⟨text, tail, ⟨m.line + 1, k, k⟩, true⟩ := by
  rw [h.append indent m _ noMark, plain, if_neg (by decide), if_pos (by decide)]
  show plain false indent text.reverse (.lines (some '\n') []) true (m.along text).newline _ = _
  rw [plain_lines ready text.reverse _ _ _ (by simpa [Mark.newline] using short)]
  simp [Mark.newline, Mark.along]

end Periapsis.Yaml
