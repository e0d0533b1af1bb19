import Periapsis.Proofs.Yaml.Plain

/-!
# Scans, token by token

A scan that has come to its next token leads to what the rest of the text leads
to (`Leads`), one token at a time (`Leads.step`). The number of steps that a
scan is allowed is never the limit, because each of them takes a character
(`scan?_of_leads`).

Between two tokens a scan passes over the gap and ends the collections that end
there. It goes on in the same line (`approach_space`), or at the start of the
next one (`approach_line`), where it knows no more of what stood before than the
collections it is in (`place`).
-/

namespace Periapsis.Yaml.Scan

/-! ## Runs -/

/-- What a scan does at its next token, and then for so many tokens more. -/
def go (n : Nat) (s : Scan) : Option (List Token) :=
  match s.rest with
  | [] => s.finish
  | c :: rest => s.token c rest >>= run n

theorem run_succ (n : Nat) (s : Scan) : run (n + 1) s = s.approach >>= go n :=
  rfl

/-- A scan at its next token finds all tokens, in no more steps than there are
characters left. -/
def Leads (s : Scan) (tokens : List Token) : Prop :=
  ∃ n ≤ s.rest.length, s.go n = some tokens

variable {s t u : Scan} {tokens : List Token}

theorem Leads.finish (rest : s.rest = []) (h : s.finish = some tokens) : s.Leads tokens :=
  ⟨0, Nat.zero_le _, by rw [go, rest]; exact h⟩

/-- One token, and the way to the next one. -/
theorem Leads.step {c : Char} {rest : List Char} (h : u.Leads tokens) (next : s.rest = c :: rest)
    (token : s.token c rest = some t) (approach : t.approach = some u)
    (shorter : u.rest.length ≤ rest.length) : s.Leads tokens := by
  obtain ⟨n, few, found⟩ := h
  refine ⟨n + 1, ?_, ?_⟩
  · rw [next, List.length_cons]
    omega
  · rw [go, next]
    dsimp only
    rw [token, Option.bind_eq_bind, Option.bind_some, run_succ, approach]
    exact found

theorem go_of_le {m n : Nat} (le : m ≤ n) (h : s.go m = some tokens) : s.go n = some tokens := by
  induction m generalizing s n with
  | zero =>
    unfold go at h ⊢
    split at h
    · exact h
    · obtain ⟨t, -, h⟩ := Option.bind_eq_some_iff.1 h
      cases h
  | succ m ih =>
    obtain ⟨n, rfl⟩ : ∃ n', n = n' + 1 := ⟨n - 1, by omega⟩
    unfold go at h ⊢
    split at h
    · exact h
    · obtain ⟨t, found, h⟩ := Option.bind_eq_some_iff.1 h
      obtain ⟨u, approached, h⟩ := Option.bind_eq_some_iff.1 h
      rw [found, Option.bind_eq_bind, Option.bind_some, run_succ, approached]
      exact ih (by omega) h

/-- A text is scanned to its end, whatever it takes. -/
theorem scan?_of_leads {text : List Char} (start : (initial text).approach = some s)
    (shorter : s.rest.length ≤ text.length) (h : s.Leads tokens) :
    Token.scan? text = some tokens := by
  obtain ⟨n, few, found⟩ := h
  rw [Token.scan?, run_succ, start]
  exact go_of_le (Nat.le_trans few shorter) found

/-! ## Places -/

/-- A scan in block collections with nothing that may turn out to be a key. -/
def place (m : Mark) (allowed : Bool) (indent : Int) (outer : List Int) (tokens : List Token)
    (rest : List Char) : Scan where
  rest := rest
  mark := m
  indent := indent
  outer := outer
  keyAllowed := allowed
  candidate := none
  suspended := []
  tokens := tokens
  count := tokens.length

/-- The place behind the indentation of a line. -/
def lineStart (line column : Nat) (indent : Int) (outer : List Int) (tokens : List Token)
    (rest : List Char) : Scan :=
  place ⟨line, column, column⟩ true indent outer tokens rest

theorem unindent_of_le {column : Int} (h : s.indent ≤ column) : s.unindent column = s := by
  unfold unindent
  split
  · rfl
  · cases outer : s.outer with
    | nil => rw [unroll, ← outer]
    | cons first more => rw [unroll, if_neg (by omega), ← outer]

/-! ## Gaps -/

theorem skipGap_ready (s : Scan) (allowed : Bool) (m : Mark) {rest : List Char}
    (ready : Ready rest) :
    s.skipGap false allowed m rest = { s with rest := rest, mark := m, keyAllowed := allowed } := by
  cases rest with
  | nil => rfl
  | cons c rest =>
    obtain ⟨inline, noSpace, noComment⟩ := ready c rfl
    have noTab : c ≠ '\t' := ne_of_isSpecial inline.1 (by decide)
    rw [skipGap, inline.2, if_neg Bool.false_ne_true, if_neg Bool.false_ne_true,
      if_neg (fun h => ne_of_isSpecial inline.1 (by decide) h.1), if_neg (by simp [noSpace, noTab]),
      if_neg noComment]

theorem skipGap_spaces (s : Scan) (allowed : Bool) (m : Mark) (k : Nat) (rest : List Char) :
    s.skipGap false allowed m (List.replicate k ' ' ++ rest) =
      s.skipGap false allowed ⟨m.line, m.column + k, m.byte + k⟩ rest := by
  induction k generalizing m with
  | zero => rfl
  | succ k ih =>
    rw [List.replicate_succ, List.cons_append, skipGap, if_neg (by decide),
      if_neg Bool.false_ne_true, if_neg (fun h => absurd h.1 (by decide)), if_pos (.inl rfl), ih,
      Mark.next]
    dsimp only
    rw [Nat.add_right_comm m.column, Nat.add_right_comm m.byte]
    rfl

theorem inFlow_of_block (block : s.suspended = []) : s.inFlow = false := by
  rw [inFlow, block]
  rfl

/-- The end of a line and the indentation of the next one. -/
theorem skipGap_line (block : s.suspended = []) (allowed : Bool) (m : Mark) (k : Nat)
    {rest : List Char} (ready : Ready rest) :
    s.skipGap false allowed m ('\n' :: (List.replicate k ' ' ++ rest)) =
      { s with rest := rest, mark := ⟨m.line + 1, k, k⟩, keyAllowed := true } := by
  rw [skipGap, if_pos (by decide), skipGap_spaces, skipGap_ready _ _ _ ready,
    inFlow_of_block block, Bool.not_false, Bool.or_true, Mark.newline]
  simp only [Nat.zero_add]

variable {m : Mark} {allowed : Bool} {indent : Int} {outer : List Int} {before : List Token}
  {rest : List Char}

/-- A space in front of what follows in the line. -/
theorem approach_space (ready : Ready rest) (inside : indent ≤ (m.column : Int)) :
    (place m allowed indent outer before (' ' :: rest)).approach =
      some (place m.next allowed indent outer before rest) := by
  have gap : (place m allowed indent outer before (' ' :: rest)).skipGap false allowed m
      (' ' :: rest) = place m.next allowed indent outer before rest :=
    (skipGap_spaces _ allowed m 1 rest).trans (skipGap_ready _ _ _ ready)
  have inside' : indent ≤ (m.next.column : Int) := by
    show indent ≤ ((m.column + 1 : Nat) : Int)
    omega
  unfold approach
  show (skipGap _ false allowed m (' ' :: rest)).dropStale.bind _ = _
  rw [gap]
  exact congrArg some (unindent_of_le inside')

/-- Where a token follows at once, nothing is passed over. -/
theorem approach_ready (ready : Ready s.rest)
    (near : ∀ k ∈ s.candidate, s.mark.line = k.mark.line ∧ s.mark.byte ≤ k.mark.byte + 1024)
    (inside : s.indent ≤ s.mark.column) : s.approach = some s := by
  have fresh : s.dropStale = some s := by
    unfold dropStale
    split
    · rfl
    · rename_i k some
      obtain ⟨line, byte⟩ := near k some
      rw [if_neg (by omega)]
  unfold approach
  rw [skipGap_ready s _ _ ready, fresh]
  exact congrArg some (unindent_of_le inside)

/-- The candidate of a line that is over is given up. -/
theorem dropStale_of_line
    (passed : ∀ k ∈ s.candidate, k.required = false ∧ k.mark.line < s.mark.line) :
    s.dropStale = some { s with candidate := none } := by
  unfold dropStale
  split
  · rename_i none
    rw [← none]
  · rename_i k some
    obtain ⟨notRequired, line⟩ := passed k some
    rw [if_pos (.inl line), notRequired]
    rfl

/-- A scan goes on at the next line, where some collections may end. What it has
read of this line, or whether it has read the end of the line with it, makes no
difference there. -/
theorem approach_line {s : Scan} (block : s.suspended = []) (counted : s.count = s.tokens.length)
    {line k : Nat} (ready : Ready rest)
    (passed : ∀ key ∈ s.candidate, key.required = false ∧ key.mark.line < line)
    (position : s.rest = rest ∧ s.mark = ⟨line, k, k⟩ ∧ s.keyAllowed = true ∨
      s.rest = '\n' :: (List.replicate k ' ' ++ rest) ∧ s.mark.line + 1 = line) :
    s.approach = some ((lineStart line k s.indent s.outer s.tokens rest).unindent k) := by
  have gap : s.skipGap false s.keyAllowed s.mark s.rest =
      { s with rest := rest, mark := ⟨line, k, k⟩, keyAllowed := true } := by
    rcases position with ⟨here, mark, allowed⟩ | ⟨here, rfl⟩
    · rw [here, mark, allowed, skipGap_ready _ _ _ ready]
    · rw [here, skipGap_line block _ _ _ ready]
  unfold approach
  rw [gap, dropStale_of_line passed]
  show some (unindent _ (k : Int)) = _
  rw [lineStart, place, ← counted, ← block]

theorem approach_place_line {k : Nat} (ready : Ready rest) :
    (place m allowed indent outer before ('\n' :: (List.replicate k ' ' ++ rest))).approach =
      some ((lineStart (m.line + 1) k indent outer before rest).unindent k) :=
  approach_line rfl rfl ready nofun (.inr ⟨rfl, rfl⟩)

end Periapsis.Yaml.Scan
