import Periapsis.Proofs.Yaml.Written

/-!
# Lines of block collections

What a scan makes of the lines of a block mapping, from the start of a line to
the start of the next one: a key with its colon (`leads_key_value`,
`leads_key_line`), a text at the end of a line (`leads_written`, `leads_text`),
the indicators in front of an item, a key and a value (`leads_item`,
`leads_question`, `leads_colon`), and the end of the file (`leads_end`).

Tokens are collected with the last one first. A mapping that starts at a key
puts its own token in front of the key's (`Opens`).
-/

namespace Periapsis.Yaml.Scan

variable {m : Mark} {allowed plain : Bool} {line k : Nat} {indent : Int} {outer outer' : List Int}
  {before before' tokens : List Token} {text written rest tail : List Char}

theorem rest_unindent (s : Scan) (column : Int) : (s.unindent column).rest = s.rest := by
  have unrolled (outer : List Int) : ∀ s : Scan, (s.unroll column outer).rest = s.rest := by
    induction outer with
    | nil => exact fun _ => rfl
    | cons first more ih =>
      intro s
      rw [unroll]
      split
      · exact ih _
      · rfl
  unfold unindent
  split
  · rfl
  · exact unrolled _ s

theorem unroll_outer (s : Scan) (own : List Int) (column : Int) (outer : List Int) :
    unroll column { s with outer := own } outer = unroll column s outer := by
  induction outer generalizing s with
  | nil => rfl
  | cons first more ih =>
    rw [unroll, unroll]
    split
    · exact ih { s.emit .blockEnd with indent := first }
    · rfl

/-- A mapping that is indented more than a line ends in front of it. -/
theorem unindent_lineStart {column first : Int} (deeper : column < indent) :
    (lineStart line k indent (first :: outer) before rest).unindent column =
      (lineStart line k first outer (.blockEnd :: before) rest).unindent column := by
  show (if column < indent then _ else _) = _
  rw [if_pos deeper]
  exact unroll_outer (lineStart line k first outer (.blockEnd :: before) rest) (first :: outer) column
    outer

/-- What is left of a text leads on from the start of its first line, which is
indented no more than the innermost mapping and may end some of them. -/
def Resumes (column : Nat) (outer : List Int) (before : List Token) (text : List Char)
    (tokens : List Token) : Prop :=
  ∃ k tail, text = List.replicate k ' ' ++ tail ∧ k ≤ column ∧ Ready tail ∧
    ∀ line, ((lineStart line k column outer before tail).unindent k).Leads tokens

/-- The next line may go on with the mapping. -/
theorem Resumes.of_lineStart {column : Nat} (ready : Ready tail)
    (h : ∀ line, (lineStart line column column outer before tail).Leads tokens) :
    Resumes column outer before (List.replicate column ' ' ++ tail) tokens := by
  refine ⟨column, tail, rfl, Nat.le_refl _, ready, fun line => ?_⟩
  have stays : (lineStart line column column outer before tail).unindent column =
      lineStart line column column outer before tail := unindent_of_le (Int.le_refl _)
  rw [stays]
  exact h line

/-! ## Texts -/

/-- A scalar at the end of a line is followed by the next line. -/
theorem Leads.scalar_line (line : Nat) {s t : Scan} {c : Char} {later : List Char}
    (next : s.rest = c :: later) (token : s.token c later = some t) (block : t.suspended = [])
    (counted : t.count = t.tokens.length) (ready : Ready tail)
    (passed : ∀ key ∈ t.candidate, key.required = false ∧ key.mark.line < line)
    (position : t.rest = tail ∧ t.mark = ⟨line, k, k⟩ ∧ t.keyAllowed = true ∨
      t.rest = '\n' :: (List.replicate k ' ' ++ tail) ∧ t.mark.line + 1 = line)
    (shorter : tail.length ≤ later.length)
    (h : ((lineStart line k t.indent t.outer t.tokens tail).unindent k).Leads tokens) :
    s.Leads tokens :=
  h.step next token (approach_line block counted ready passed position)
    (by rw [rest_unindent]; exact shorter)

/-- A text in one line ends it. -/
theorem leads_written (h : Written text written plain) {parent : Nat} (inside : parent < m.column)
    (next : Resumes parent outer (.scalar plain (String.ofList text) :: before) rest tokens) :
    (place m allowed parent outer before (written ++ '\n' :: rest)).Leads tokens := by
  obtain ⟨k, tail, rfl, short, ready, next⟩ := next
  obtain ⟨c, later, read, same, token, rfl, position⟩ := token_line (s := place m allowed parent outer
    before (written ++ '\n' :: (List.replicate k ' ' ++ tail))) h rfl rfl ready
    (show (k : Int) ≤ (parent : Int) by omega)
  refine Leads.scalar_line (m.line + 1) same token rfl rfl ready (fun key hkey => ?_) position ?_
    (next _)
  · have notRequired : (!false && (parent : Int) == (m.column : Int)) = false := by
      simp only [Bool.not_false, Bool.true_and, beq_eq_false_iff_ne, ne_eq]
      omega
    cases allowed with
    | true =>
      cases hkey
      exact ⟨notRequired, Nat.lt_succ_self _⟩
    | false => cases hkey
  · have lengths := congrArg List.length same
    simp only [List.length_append, List.length_cons] at lengths
    omega

/-- A text in several lines ends the last of them. -/
theorem leads_literal (ne_nil : text ≠ []) (chars : ∀ c ∈ text, c = '\n' ∨ Inline c) {parent : Nat}
    (next : Resumes parent outer (.scalar false (String.ofList text) :: before) rest tokens) :
    (place m allowed parent outer before (writeLiteral (parent + 2) text ++ rest)).Leads tokens := by
  obtain ⟨k, tail, rfl, short, ready, next⟩ := next
  obtain ⟨line, read⟩ := block_writeLiteral ne_nil chars parent (show k < parent + 2 by omega) ready
    m.next
  rw [writeLiteral_eq, List.cons_append, List.append_assoc, List.append_assoc, List.cons_append]
  generalize later_eq : (if needsHint text then ['2'] else []) ++ ((chompingOf text).sign ++
    '\n' :: (writeLines (parent + 2) false text ++ (List.replicate k ' ' ++ tail))) = later at read ⊢
  have token : (place m allowed parent outer before ('|' :: later)).token '|' later =
      (place m allowed parent outer before ('|' :: later)).blockScalar false later := by
    simp [Scan.token, isDocumentMark, inFlow, place]
  have found : (place m allowed parent outer before ('|' :: later)).token '|' later =
      some ((place m allowed parent outer before ('|' :: later)).addScalar false
        ⟨text, tail, ⟨line, k, k⟩, true⟩) := by
    rw [token, blockScalar]
    show (block false parent m.next later).bind _ = _
    rw [read]
    rfl
  refine Leads.scalar_line line rfl found rfl rfl ready
    (fun key none => absurd none (Option.not_mem_none key)) (.inl ⟨rfl, rfl, rfl⟩) ?_ (next line)
  simp only [← later_eq, List.length_append, List.length_cons]
  omega

/-- A text with the end of its line is followed by the next line. -/
theorem leads_text (noSeparators : NoSeparators text) {parent : Nat} (inside : parent < m.column)
    (next : Resumes parent outer
      (.scalar (decide (Style.of text = .plain)) (String.ofList text) :: before) rest tokens) :
    (place m allowed parent outer before (writeText (parent + 2) text ++ rest)).Leads tokens := by
  unfold writeText
  split
  · rename_i literal
    obtain ⟨ne_nil, chars⟩ := chars_of_literal noSeparators literal
    simp only [literal] at next
    exact leads_literal ne_nil chars next
  · rename_i oneLine
    rw [List.append_assoc, List.singleton_append]
    exact leads_written (written_writeScalar noSeparators oneLine (parent + 2)) inside next

/-! ## Keys -/

/-- A mapping at a column is the one that is there, or starts with its token. -/
inductive Opens (k : Nat) : Int → List Int → List Token → List Int → List Token → Prop where
  | start {indent : Int} {outer : List Int} {before : List Token} :
    indent < k → Opens k indent outer before (indent :: outer) (.mappingStart :: before)
  | inside {outer : List Int} {before : List Token} : Opens k k outer before outer before

theorem Opens.le (h : Opens k indent outer before outer' before') : indent ≤ k := by
  cases h with
  | start less => omega
  | inside => omega

/-- A key in one line is followed by what stands behind its colon. -/
theorem leads_key (h : Written text written plain) (short : (Utf8.encode written).length ≤ 1024)
    (opens : Opens k indent outer before outer' before') (word : endsWord rest = true) {u : Scan}
    (approach : (place ((⟨line, k, k⟩ : Mark).along written).next false k outer'
      (.value :: .scalar plain (String.ofList text) :: .key :: before') rest).approach = some u)
    (shorter : u.rest.length ≤ rest.length) (next : u.Leads tokens) :
    (lineStart line k indent outer before (written ++ ':' :: rest)).Leads tokens := by
  obtain ⟨c, later, same, token⟩ := token_key (s := lineStart line k indent outer before
    (written ++ ':' :: rest)) h rfl rfl word
  -- The key is a candidate until its colon comes, which is near.
  obtain ⟨t, ht⟩ : ∃ t, t = (lineStart line k indent outer before
      (written ++ ':' :: rest)).noted.addScalar plain
        ⟨text, ':' :: rest, (⟨line, k, k⟩ : Mark).along written, false⟩ := ⟨_, rfl⟩
  have stays : t.approach = some t := by
    subst ht
    refine approach_ready (.cons (by decide)) (fun key hkey => ?_) ?_
    · cases hkey
      exact ⟨rfl, Nat.add_le_add_left short k⟩
    · have := opens.le
      show indent ≤ ((k + written.length : Nat) : Int)
      omega
  have colon : t.token ':' rest = some (place ((⟨line, k, k⟩ : Mark).along written).next false k
      outer' (.value :: .scalar plain (String.ofList text) :: .key :: before') rest) := by
    have value : t.token ':' rest = t.startValue rest := by
      simp [Scan.token, isDocumentMark, word]
    rw [value, ht]
    cases opens with
    | start less =>
      have two : before.length + 1 + 1 - before.length = 2 := by omega
      simp [startValue, noted, addScalar, lineStart, place, goTo, emit, emitAt, indentTo, inFlow,
        less, two]
    | inside =>
      simp [startValue, noted, addScalar, lineStart, place, goTo, emit, emitAt, indentTo, inFlow]
  have step : t.Leads tokens := next.step (by rw [ht]; rfl) colon approach shorter
  refine step.step same (by rw [ht]; exact token) stays ?_
  obtain ⟨d, more, cons, -⟩ := h.exists_cons
  have lengths := congrArg List.length same
  simp only [cons, List.length_append, List.length_cons] at lengths
  rw [ht]
  show rest.length + 1 ≤ later.length
  omega

/-- A key whose value stands in its line. -/
theorem leads_key_value (h : Written text written plain)
    (short : (Utf8.encode written).length ≤ 1024)
    (opens : Opens k indent outer before outer' before') (ready : Ready rest)
    (next : ∀ m : Mark, k < m.column → (place m false k outer'
      (.value :: .scalar plain (String.ofList text) :: .key :: before') rest).Leads tokens) :
    (lineStart line k indent outer before (written ++ ':' :: ' ' :: rest)).Leads tokens := by
  have inside : k ≤ ((⟨line, k, k⟩ : Mark).along written).next.column :=
    Nat.le_succ_of_le (Nat.le_add_right k _)
  exact leads_key h short opens (by rfl) (approach_space ready (by exact_mod_cast inside))
    (Nat.le_succ _) (next _ (Nat.lt_succ_of_le inside))

/-- A key whose value starts on the next line. -/
theorem leads_key_line (h : Written text written plain)
    (short : (Utf8.encode written).length ≤ 1024)
    (opens : Opens k indent outer before outer' before') (ready : Ready tail) {j : Nat}
    (next : ∀ line, ((lineStart line j k outer'
      (.value :: .scalar plain (String.ofList text) :: .key :: before') tail).unindent
        j).Leads tokens) :
    (lineStart line k indent outer before
      (written ++ ':' :: '\n' :: (List.replicate j ' ' ++ tail))).Leads tokens := by
  refine leads_key h short opens (by rfl) (approach_place_line ready) ?_ (next _)
  rw [rest_unindent]
  show tail.length ≤ _
  simp only [List.length_cons, List.length_append]
  omega

/-! ## Indicators -/

/-- Behind an indicator and a space the line goes on as if it started there. -/
theorem Leads.indicator {s : Scan} {c : Char} (here : s.rest = c :: ' ' :: rest)
    (found : s.token c (' ' :: rest) =
      some (place (⟨line, k, k⟩ : Mark).next true k outer before (' ' :: rest)))
    (ready : Ready rest) (next : (lineStart line (k + 2) k outer before rest).Leads tokens) :
    s.Leads tokens := by
  have inside : (k : Int) ≤ ((⟨line, k, k⟩ : Mark).next.column : Int) := by
    show (k : Int) ≤ ((k + 1 : Nat) : Int)
    omega
  refine next.step here found (approach_space ready inside) ?_
  rw [List.length_cons]
  exact Nat.le_succ _

/-- The hyphen in front of an item of a sequence without an indentation. -/
theorem leads_item (ready : Ready rest)
    (next : (lineStart line (k + 2) k outer (.item :: before) rest).Leads tokens) :
    (lineStart line k k outer before ('-' :: ' ' :: rest)).Leads tokens := by
  have found : (lineStart line k k outer before ('-' :: ' ' :: rest)).token '-' (' ' :: rest) =
      some (place (⟨line, k, k⟩ : Mark).next true k outer (.item :: before) (' ' :: rest)) := by
    simp [Scan.token, isDocumentMark, endsWord, isSpace, startItem, dropCandidate, lineStart, place,
      goTo, emit, indentTo, inFlow]
  exact .indicator rfl found ready next

/-- The question mark in front of a key. -/
theorem leads_question (opens : Opens k indent outer before outer' before') (ready : Ready rest)
    (next : (lineStart line (k + 2) k outer' (.key :: before') rest).Leads tokens) :
    (lineStart line k indent outer before ('?' :: ' ' :: rest)).Leads tokens := by
  have found : (lineStart line k indent outer before ('?' :: ' ' :: rest)).token '?' (' ' :: rest) =
      some (place (⟨line, k, k⟩ : Mark).next true k outer' (.key :: before') (' ' :: rest)) := by
    cases opens with
    | start less =>
      simp [Scan.token, isDocumentMark, endsWord, isSpace, startKey, dropCandidate, lineStart, place,
        goTo, emit, emitAt, indentTo, inFlow, less]
    | inside =>
      simp [Scan.token, isDocumentMark, endsWord, isSpace, startKey, dropCandidate, lineStart, place,
        goTo, emit, indentTo, inFlow]
  exact .indicator rfl found ready next

/-- The colon in front of the value of such a key. -/
theorem leads_colon (ready : Ready rest)
    (next : (lineStart line (k + 2) k outer (.value :: before) rest).Leads tokens) :
    (lineStart line k k outer before (':' :: ' ' :: rest)).Leads tokens := by
  have found : (lineStart line k k outer before (':' :: ' ' :: rest)).token ':' (' ' :: rest) =
      some (place (⟨line, k, k⟩ : Mark).next true k outer (.value :: before) (' ' :: rest)) := by
    simp [Scan.token, isDocumentMark, endsWord, isSpace, startValue, lineStart, place, goTo, emit,
      indentTo, inFlow]
  exact .indicator rfl found ready next

/-- Braces with nothing in them. -/
theorem leads_braces {parent : Nat} (inside : parent < m.column)
    (next : Resumes parent outer (.flowMappingEnd :: .flowMappingStart :: before) rest tokens) :
    (place m false parent outer before ('\x7b' :: '\x7d' :: '\n' :: rest)).Leads tokens := by
  obtain ⟨k, tail, rfl, short, ready, next⟩ := next
  generalize lines : '\n' :: (List.replicate k ' ' ++ tail) = later
  obtain ⟨s, hs⟩ : ∃ s : Scan, s = { place m.next true parent outer (.flowMappingStart :: before)
    ('\x7d' :: later) with suspended := [none] } := ⟨_, rfl⟩
  have opened : (place m false parent outer before ('\x7b' :: '\x7d' :: later)).token '\x7b'
      ('\x7d' :: later) = some s := by
    simp [hs, Scan.token, isDocumentMark, flowStart, noteCandidate, place, goTo, emit]
  have closed : s.token '\x7d' later =
      some (place m.next.next false parent outer (.flowMappingEnd :: .flowMappingStart :: before)
        later) := by
    simp [hs, Scan.token, isDocumentMark, flowEnd, dropCandidate, place, goTo, emit]
  have between : s.approach = some s := by
    rw [hs]
    refine approach_ready (.cons (by decide))
      (fun key none => absurd none (Option.not_mem_none key)) ?_
    show (parent : Int) ≤ ((m.column + 1 : Nat) : Int)
    omega
  have onward :
      (place m.next.next false parent outer (.flowMappingEnd :: .flowMappingStart :: before)
        later).approach = some ((lineStart (m.line + 1) k parent outer
        (.flowMappingEnd :: .flowMappingStart :: before) tail).unindent k) := by
    rw [← lines]
    exact approach_place_line ready
  have step : s.Leads tokens := (next _).step (by rw [hs]; rfl) closed onward (by
    rw [rest_unindent, ← lines]
    show tail.length ≤ _
    simp only [List.length_cons, List.length_append]
    omega)
  exact step.step rfl opened between (by rw [hs]; exact Nat.le_refl _)

/-! ## Files -/

theorem leads_end (line : Nat) (before : List Token) :
    (lineStart line 0 0 [-1] before []).Leads (before.reverse ++ [.blockEnd]) :=
  .finish rfl (by simp [finish, unindent, unroll, dropCandidate, lineStart, place, emit, inFlow])

theorem scan?_of_lineStart (ready : Ready text) (h : (lineStart 0 0 (-1) [] [] text).Leads tokens) :
    Token.scan? text = some tokens :=
  scan?_of_leads (approach_ready (s := initial text) ready nofun (by show (-1 : Int) ≤ 0; decide))
    (Nat.le_refl _) h

end Periapsis.Yaml.Scan
