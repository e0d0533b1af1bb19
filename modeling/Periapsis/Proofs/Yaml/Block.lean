import Periapsis.Proofs.Yaml.Plain

/-!
# Blocks of lines, read again

A literal block is read line by line. What has been read behind some characters
of its text is a fold over them (`Block.takeAll`): nothing is lost of it
(`whole_takeAll`), and only how the last line breaks count depends on the header
(`finish_takeAll`). The written lines lead there (`lines_writeLines`), and so
does the whole block (`block_writeLiteral`).
-/

namespace Periapsis.Yaml

namespace Block

/-! ## What has been read -/

/-- A block behind one more character of its text, in lines with an indentation. -/
def take (indent : Nat) (b : Block) (c : Char) : Block :=
  if c = '\n' then
    if b.inLine then { b with lineBreak := ['\n'], inLine := false }
    else { b with breaks := '\n' :: b.breaks }
  else if b.inLine then { b with text := c :: b.text }
  else b.beginLine indent c

def takeAll (indent : Nat) (b : Block) (text : List Char) : Block :=
  text.foldl (take indent) b

/-- A block behind the end of the line that is being read. -/
def endLine (b : Block) : Block :=
  if b.inLine then { b with lineBreak := ['\n'], inLine := false } else b

/-- All that has been read, the last character first. -/
def whole (b : Block) : List Char :=
  b.breaks ++ b.lineBreak ++ b.text

/-- Within a line there are no breaks to wait for. -/
def Steady (b : Block) : Prop :=
  b.folding = false ∧ (b.inLine = true → b.breaks = [] ∧ b.lineBreak = [])

variable {b : Block} (indent : Nat)

theorem Steady.take (h : b.Steady) (c : Char) : (b.take indent c).Steady := by
  obtain ⟨literal, line⟩ := h
  unfold Block.take
  split
  · split
    · exact ⟨literal, nofun⟩
    · rename_i outside
      exact ⟨literal, fun inside => absurd inside outside⟩
  · split
    · exact ⟨literal, line⟩
    · exact ⟨literal, fun _ => ⟨rfl, rfl⟩⟩

theorem whole_take (h : b.Steady) (c : Char) : (b.take indent c).whole = c :: b.whole := by
  obtain ⟨literal, line⟩ := h
  unfold Block.take
  split
  · rename_i same
    subst same
    split
    · rename_i inside
      simp [whole, (line inside).1, (line inside).2]
    · rfl
  · split
    · rename_i inside
      simp [whole, (line inside).1, (line inside).2]
    · simp [whole, beginLine, literal]

theorem inLine_take (c : Char) : (b.take indent c).inLine = decide (c ≠ '\n') := by
  unfold Block.take
  split
  · rename_i same
    cases b.inLine <;> simp [same]
  · rename_i other
    cases b.inLine <;> simp [other, beginLine]

theorem chomping_take (c : Char) : (b.take indent c).chomping = b.chomping := by
  unfold Block.take
  split
  · split <;> rfl
  · split <;> rfl

theorem takeAll_append (s t : List Char) :
    b.takeAll indent (s ++ t) = (b.takeAll indent s).takeAll indent t :=
  List.foldl_append

theorem Steady.takeAll (h : b.Steady) (text : List Char) : (b.takeAll indent text).Steady := by
  induction text generalizing b with
  | nil => exact h
  | cons c text ih => exact ih (h.take indent c)

/-- Nothing of the text is lost. -/
theorem whole_takeAll (h : b.Steady) (text : List Char) :
    (b.takeAll indent text).whole = text.reverse ++ b.whole := by
  induction text generalizing b with
  | nil => rfl
  | cons c text ih =>
    rw [List.reverse_cons, List.append_assoc, takeAll, List.foldl_cons]
    exact (ih (h.take indent c)).trans (by rw [whole_take indent h]; rfl)

theorem chomping_takeAll (text : List Char) :
    (b.takeAll indent text).chomping = b.chomping := by
  induction text generalizing b with
  | nil => rfl
  | cons c text ih => exact ih.trans (chomping_take indent c)

end Block

/-! ## Line breaks at the end -/

/-- The chomping that keeps a text as it is. -/
def chompingOf (text : List Char) : Chomping :=
  match text.reverse with
  | '\n' :: [] | '\n' :: '\n' :: _ => .keep
  | '\n' :: _ => .clip
  | _ => .strip

/-- A text ends in no break, in the one behind its last line, or in others. -/
theorem chompingOf_cases {text : List Char} (ne_nil : text ≠ []) :
    (∃ init c, c ≠ '\n' ∧ text = init ++ [c] ∧ chompingOf text = .strip) ∨
      (∃ init c, c ≠ '\n' ∧ text = init ++ [c, '\n'] ∧ chompingOf text = .clip) ∨
      ∃ init, text = init ++ ['\n'] ∧ chompingOf text = .keep := by
  obtain ⟨backwards, rfl⟩ : ∃ backwards, text = backwards.reverse :=
    ⟨text.reverse, text.reverse_reverse.symm⟩
  simp only [chompingOf, List.reverse_reverse]
  match backwards with
  | [] => exact absurd rfl ne_nil
  | [c] =>
    by_cases line : c = '\n'
    · subst line
      exact .inr (.inr ⟨[], rfl, rfl⟩)
    · exact .inl ⟨[], c, line, rfl, by split <;> simp_all⟩
  | c :: d :: rest =>
    by_cases line : c = '\n'
    · subst line
      by_cases empty : d = '\n'
      · subst empty
        exact .inr (.inr ⟨_, List.reverse_cons, rfl⟩)
      · exact .inr (.inl ⟨rest.reverse, d, empty, by simp, by split <;> simp_all⟩)
    · exact .inl ⟨_, c, line, List.reverse_cons, by split <;> simp_all⟩

namespace Block

theorem finish_eq_whole {b : Block} (clip : b.chomping ≠ .keep → b.breaks = [])
    (strip : b.chomping = .strip → b.lineBreak = []) : b.finish = b.whole := by
  cases h : b.chomping with
  | keep => rw [finish, h]; rfl
  | clip => rw [finish, h, whole, clip (by rw [h]; decide)]; rfl
  | strip => rw [finish, h, whole, clip (by rw [h]; decide), strip h]; rfl

/-- With its own chomping a text is kept as it is. -/
theorem finish_takeAll {b : Block} (indent : Nat) (h : b.Steady) {text : List Char}
    (ne_nil : text ≠ []) (empty : b.whole = []) (chomping : b.chomping = chompingOf text) :
    (b.takeAll indent text).endLine.finish = text.reverse := by
  have chomping := (chomping_takeAll indent text).trans chomping
  have whole := whole_takeAll indent h text
  rw [empty, List.append_nil] at whole
  rcases chompingOf_cases ne_nil with
    ⟨init, c, other, rfl, strip⟩ | ⟨init, c, other, rfl, clip⟩ | ⟨init, rfl, keep⟩
  · have inside : (b.takeAll indent (init ++ [c])).inLine = true := by
      rw [takeAll_append]
      exact (inLine_take indent c).trans (decide_eq_true other)
    obtain ⟨noBreaks, noBreak⟩ := (h.takeAll indent _).2 inside
    rw [endLine, inside, if_pos rfl, finish]
    dsimp only
    rw [chomping, strip, ← whole, Block.whole, noBreaks, noBreak]
    rfl
  · have before : ((b.takeAll indent init).take indent c).inLine = true :=
      (inLine_take indent c).trans (decide_eq_true other)
    have last : b.takeAll indent (init ++ [c, '\n']) =
        { (b.takeAll indent init).take indent c with lineBreak := ['\n'], inLine := false } := by
      rw [takeAll_append]
      show Block.take indent ((b.takeAll indent init).take indent c) '\n' = _
      rw [Block.take, if_pos rfl, before, if_pos rfl]
    have noBreaks : (b.takeAll indent (init ++ [c, '\n'])).breaks = [] := by
      rw [last]
      exact (((h.takeAll indent init).take indent c).2 before).1
    have outside : (b.takeAll indent (init ++ [c, '\n'])).inLine = false := by rw [last]
    rw [endLine, outside, if_neg Bool.false_ne_true, finish_eq_whole (fun _ => noBreaks), whole]
    rw [chomping, clip]
    nofun
  · have outside : (b.takeAll indent (init ++ ['\n'])).inLine = false := by
      rw [takeAll_append]
      exact (inLine_take indent '\n').trans (decide_eq_false (not_not_intro rfl))
    rw [endLine, outside, if_neg Bool.false_ne_true, finish_eq_whole, whole]
    · rw [chomping, keep]
      exact fun h => absurd rfl h
    · rw [chomping, keep]
      nofun

end Block

/-! ## Lines -/

namespace Block

variable {b : Block} {indent : Nat}

/-- The margin of a line is passed over. -/
theorem lines_margin (outside : b.inLine = false)
    (margin : ∀ column < indent, b.inMargin column = true) (m : Mark) (j : Nat)
    (fits : m.column + j ≤ indent) (input : List Char) :
    b.lines m (List.replicate j ' ' ++ input) =
      b.lines ⟨m.line, m.column + j, m.byte + j⟩ input := by
  induction j generalizing m with
  | zero => rfl
  | succ j ih =>
    have next : m.next.column + j ≤ indent := by
      show m.column + 1 + j ≤ indent
      omega
    rw [List.replicate_succ, List.cons_append, lines, outside, if_neg Bool.false_ne_true,
      if_pos ⟨rfl, margin m.column (by omega)⟩, ih m.next next, Mark.next]
    dsimp only
    rw [Nat.add_right_comm m.column, Nat.add_right_comm m.byte]
    rfl

theorem inMargin_of_settled (settled : b.indent = some indent) (column : Nat) :
    b.inMargin column = decide (column < indent) := by
  rw [inMargin, settled]

theorem margin_of_settled (settled : b.indent = some indent) :
    ∀ column < indent, b.inMargin column = true :=
  fun column h => (inMargin_of_settled settled column).trans (decide_eq_true h)

/-- A line that is not indented enough ends a block. -/
theorem lines_end (outside : b.inLine = false) (settled : b.indent = some indent) {k : Nat}
    (short : k < indent) {tail : List Char} (ready : Ready tail) (line : Nat) :
    b.lines ⟨line, 0, 0⟩ (List.replicate k ' ' ++ tail) =
      some ⟨b.finish.reverse, tail, ⟨line, k, k⟩, true⟩ := by
  rw [lines_margin outside (margin_of_settled settled) _ _ (by simpa using Nat.le_of_lt short)]
  simp only [Nat.zero_add]
  cases tail with
  | nil => rfl
  | cons c rest =>
    obtain ⟨inline, noSpace, -⟩ := ready c rfl
    have other : k ≠ b.settle k := by
      rw [settle, settled]
      exact Nat.ne_of_lt short
    rw [lines, outside, if_neg Bool.false_ne_true, if_neg (fun h => noSpace h.1),
      if_neg (fun h => ne_of_isSpecial inline.1 (by decide) h.1), inline.2,
      if_neg Bool.false_ne_true]
    exact if_neg other

theorem indent_take (settled : b.indent = some indent) (c : Char) :
    (b.take indent c).indent = some indent := by
  unfold Block.take
  split
  · split <;> exact settled
  · split
    · exact settled
    · rfl

/-- The break behind a line, or an empty line. -/
theorem lines_writeLines_break (m : Mark) (start : b.inLine = false → m.column = 0)
    (text input : List Char) :
    b.lines m (writeLines indent b.inLine ('\n' :: text) ++ input) =
      (b.take indent '\n').lines m.newline (writeLines indent false text ++ input) := by
  rw [Block.take, if_pos rfl]
  cases inside : b.inLine with
  | true =>
    rw [writeLines, if_pos rfl, List.cons_append, lines, inside, if_pos rfl, if_pos (by decide),
      if_pos rfl]
  | false =>
    rw [writeLines, if_pos rfl, List.cons_append, lines, inside, if_neg Bool.false_ne_true,
      if_neg (by simp), if_neg (by simp), if_pos (by decide), if_neg Bool.false_ne_true,
      start inside, Nat.max_zero]

theorem lines_writeLines_inside {c : Char} (inline : Inline c) (line : c ≠ '\n')
    (inside : b.inLine = true) (m : Mark) (text input : List Char) :
    b.lines m (writeLines indent true (c :: text) ++ input) =
      (b.take indent c).lines (m.past c) (writeLines indent true text ++ input) := by
  rw [writeLines, if_neg line, if_pos rfl, List.cons_append, lines, inside, if_pos rfl, inline.2,
    if_neg Bool.false_ne_true, Block.take, if_neg line, inside, if_pos rfl]

/-- The first character of a line behind the margin. -/
theorem lines_writeLines_first {c : Char} (inline : Inline c) (line : c ≠ '\n')
    (outside : b.inLine = false) (settled : b.indent = some indent) (m : Mark)
    (start : m.column = 0) (text input : List Char) :
    b.lines m (writeLines indent false (c :: text) ++ input) =
      (b.take indent c).lines ((⟨m.line, indent, m.byte + indent⟩ : Mark).past c)
        (writeLines indent true text ++ input) := by
  have margin : m.column + indent = indent := by rw [start, Nat.zero_add]
  have noMargin : b.inMargin indent = false :=
    (inMargin_of_settled settled indent).trans (decide_eq_false (Nat.lt_irrefl _))
  have same : b.settle indent = indent := by
    rw [settle, settled]
    rfl
  rw [writeLines, if_neg line, if_neg Bool.false_ne_true, List.append_assoc,
    lines_margin outside (margin_of_settled settled) _ _ (Nat.le_of_eq margin), margin,
    List.cons_append, lines, outside, if_neg Bool.false_ne_true]
  dsimp only
  rw [noMargin, if_neg (by simp), if_neg (by simp), inline.2, if_neg Bool.false_ne_true, same,
    if_pos rfl, Block.take, if_neg line, outside, if_neg Bool.false_ne_true]

/-- What is left of a block behind its text is the end of a line. -/
theorem lines_writeLines_nil (settled : b.indent = some indent) {k : Nat} (short : k < indent)
    {tail : List Char} (ready : Ready tail) (m : Mark)
    (start : b.inLine = false → m.column = 0 ∧ m.byte = 0) :
    ∃ line, b.lines m (writeLines indent b.inLine [] ++ (List.replicate k ' ' ++ tail)) =
      some ⟨b.endLine.finish.reverse, tail, ⟨line, k, k⟩, true⟩ := by
  cases inside : b.inLine with
  | true =>
    refine ⟨m.line + 1, ?_⟩
    rw [writeLines, List.singleton_append, lines, inside, if_pos rfl, if_pos (by decide), endLine,
      inside, if_pos rfl]
    exact lines_end (b := { b with lineBreak := ['\n'], inLine := false }) rfl settled short ready _
  | false =>
    obtain ⟨line, column, byte⟩ := m
    obtain ⟨rfl, rfl⟩ : column = 0 ∧ byte = 0 := start inside
    refine ⟨line, ?_⟩
    rw [writeLines, List.nil_append, endLine, inside, if_neg Bool.false_ne_true]
    exact lines_end inside settled short ready _

/-- Written lines are read as their text, up to a line that is not indented
enough. -/
theorem lines_writeLines {text : List Char} (chars : ∀ c ∈ text, c = '\n' ∨ Inline c) {k : Nat}
    (short : k < indent) {tail : List Char} (ready : Ready tail)
    (settled : b.indent = some indent) (m : Mark)
    (start : b.inLine = false → m.column = 0 ∧ m.byte = 0) :
    ∃ line, b.lines m (writeLines indent b.inLine text ++ (List.replicate k ' ' ++ tail)) =
      some ⟨(b.takeAll indent text).endLine.finish.reverse, tail, ⟨line, k, k⟩, true⟩ := by
  induction text generalizing b m with
  | nil => exact lines_writeLines_nil settled short ready m start
  | cons c text ih =>
    obtain ⟨hc, chars'⟩ := List.forall_mem_cons.1 chars
    have later := ih chars' (indent_take settled c)
    have next : b.takeAll indent (c :: text) = (b.take indent c).takeAll indent text := rfl
    have inLine : (b.take indent c).inLine = decide (c ≠ '\n') := inLine_take indent c
    rw [next]
    by_cases line : c = '\n'
    · rw [decide_eq_false (not_not_intro line)] at inLine
      rw [inLine, line] at later
      rw [line, lines_writeLines_break m fun outside => (start outside).1]
      exact later _ fun _ => ⟨rfl, rfl⟩
    · rw [decide_eq_true line] at inLine
      rw [inLine] at later
      have inline := hc.resolve_left line
      cases inside : b.inLine with
      | true =>
        rw [lines_writeLines_inside inline line inside]
        exact later _ nofun
      | false =>
        rw [lines_writeLines_first inline line inside settled m (start inside).1]
        exact later _ nofun

/-- Where the first line begins with neither a blank nor a break, its
indentation is found. -/
theorem lines_settle {c : Char} (inline : Inline c) (noSpace : c ≠ ' ') (outside : b.inLine = false)
    (unsettled : b.indent = none) (widest : b.widest = 0) (least : b.least ≤ indent) (line : Nat)
    (rest : List Char) :
    b.lines ⟨line, 0, 0⟩ (List.replicate indent ' ' ++ c :: rest) =
      { b with indent := some indent }.lines ⟨line, 0, 0⟩
        (List.replicate indent ' ' ++ c :: rest) := by
  have begins (b' : Block) (outside : b'.inLine = false) (settle : b'.settle indent = indent) :
      b'.lines ⟨line, indent, indent⟩ (c :: rest) =
        (b'.beginLine indent c).lines ((⟨line, indent, indent⟩ : Mark).past c) rest := by
    rw [lines, outside, if_neg Bool.false_ne_true, if_neg (fun h => noSpace h.1),
      if_neg (fun h => ne_of_isSpecial inline.1 (by decide) h.1), inline.2,
      if_neg Bool.false_ne_true]
    dsimp only
    rw [settle, if_pos rfl]
  have found : b.settle indent = indent := by
    rw [settle, unsettled, widest]
    show max (max 0 indent) b.least = indent
    omega
  have margin : ∀ column < indent, b.inMargin column = true := fun column _ => by
    rw [inMargin, unsettled]
  rw [lines_margin outside margin _ indent (by simp) (c :: rest),
    lines_margin (b := { b with indent := some indent }) outside (margin_of_settled rfl) _ indent
      (by simp) (c :: rest)]
  simp only [Nat.zero_add]
  rw [begins b outside found, begins { b with indent := some indent } outside rfl]
  rfl

end Block

/-! ## Headers -/

/-- How a header shows a chomping. -/
def Chomping.sign : Chomping → List Char
  | strip => ['-']
  | clip => []
  | keep => ['+']

/-- Whether a header shows the indentation, because the text hides it. -/
def needsHint (text : List Char) : Bool :=
  text.head?.any fun c => c == ' ' || isWrittenBreak c

theorem writeLiteral_eq (indent : Nat) (text : List Char) :
    writeLiteral indent text =
      '|' :: ((if needsHint text then ['2'] else []) ++ ((chompingOf text).sign ++
        '\n' :: writeLines indent false text)) := by
  have sign : ∀ backwards : List Char, (match backwards with
      | '\n' :: [] | '\n' :: '\n' :: _ => ['+']
      | '\n' :: _ => []
      | _ => ['-']) = (match backwards with
      | '\n' :: [] | '\n' :: '\n' :: _ => Chomping.keep
      | '\n' :: _ => .clip
      | _ => .strip).sign := by
    intro backwards
    split <;> rfl
  unfold writeLiteral
  dsimp only
  rw [List.cons_append, List.cons_append, List.append_assoc]
  refine congrArg _ (congrArg _ (congrArg (· ++ _) ?_))
  exact sign text.reverse

theorem noSpecials_writeLines (indent : Nat) (begun : Bool) {text : List Char}
    (h : NoSpecials text) : NoSpecials (writeLines indent begun text) := by
  fun_induction writeLines indent begun text with
  | case1 => decide
  | case2 => exact h
  | case3 _ rest ih =>
    exact noSpecials_cons.2 ⟨by decide, ih (noSpecials_cons.1 h).2⟩
  | case4 c rest _ ih =>
    exact noSpecials_cons.2 ⟨(noSpecials_cons.1 h).1, ih (noSpecials_cons.1 h).2⟩
  | case5 _ c rest _ _ ih =>
    exact noSpecials_append.2 ⟨noSpecials_replicate indent (by decide),
      noSpecials_cons.2 ⟨(noSpecials_cons.1 h).1, ih (noSpecials_cons.1 h).2⟩⟩

theorem noSpecials_writeLiteral (indent : Nat) {text : List Char} (h : NoSpecials text) :
    NoSpecials (writeLiteral indent text) := by
  rw [writeLiteral_eq, noSpecials_cons, noSpecials_append, noSpecials_append, noSpecials_cons]
  refine ⟨by decide, ?_, ?_, by decide, noSpecials_writeLines indent false h⟩
  · split <;> decide
  · cases chompingOf text <;> decide

theorem headerRead_eq (hint : Bool) (chomping : Chomping) (m : Mark) (rest : List Char) :
    Header.read m ((if hint then ['2'] else []) ++ (chomping.sign ++ '\n' :: rest)) =
      some ⟨chomping, if hint then some 2 else none, rest, ⟨m.line + 1, 0, 0⟩⟩ := by
  cases hint <;> cases chomping <;> rfl

/-! ## Blocks -/

/-- A literal block is read as its text, up to a line that is not indented
enough. -/
theorem block_writeLiteral {text : List Char} (ne_nil : text ≠ [])
    (chars : ∀ c ∈ text, c = '\n' ∨ Inline c) (parent : Nat) {k : Nat} (short : k < parent + 2)
    {tail : List Char} (ready : Ready tail) (m : Mark) :
    ∃ line, block false parent m ((if needsHint text then ['2'] else []) ++
        ((chompingOf text).sign ++ '\n' :: (writeLines (parent + 2) false text ++
          (List.replicate k ' ' ++ tail)))) =
      some ⟨text, tail, ⟨line, k, k⟩, true⟩ := by
  obtain ⟨b, hb⟩ : ∃ b : Block, b = {
      folding := false, chomping := chompingOf text, least := parent + 1
      indent := some (parent + 2), widest := 0, text := [], lineBreak := [], breaks := []
      blank := false, inLine := false } := ⟨_, rfl⟩
  have steady : b.Steady := by
    rw [hb]
    exact ⟨rfl, nofun⟩
  obtain ⟨line, read⟩ := Block.lines_writeLines (b := b) chars short ready (by rw [hb])
    ⟨m.line + 1, 0, 0⟩ (fun _ => ⟨rfl, rfl⟩)
  rw [Block.finish_takeAll _ steady ne_nil (by rw [hb]; rfl) (by rw [hb]),
    List.reverse_reverse] at read
  have least : (max ((parent : Int) + 1) 1).toNat = parent + 1 := by omega
  have base : (max (parent : Int) 0).toNat = parent := by omega
  refine ⟨line, ?_⟩
  rw [block, headerRead_eq]
  simp only [Option.bind_eq_bind, Option.bind_some, least, base]
  cases hint : needsHint text with
  | true =>
    rw [hb] at read
    exact read
  | false =>
    -- The first line shows the indentation.
    obtain ⟨c, rest, rfl⟩ := List.exists_cons_of_ne_nil ne_nil
    simp only [needsHint, List.head?_cons, Option.any_some, Bool.or_eq_false_iff,
      beq_eq_false_iff_ne] at hint
    have other : c ≠ '\n' := fun line => by
      rw [line] at hint
      exact absurd hint.2 (by decide)
    have inline := (chars c List.mem_cons_self).resolve_left other
    rw [hb] at read
    have first : writeLines (parent + 2) false (c :: rest) =
        List.replicate (parent + 2) ' ' ++ c :: writeLines (parent + 2) true rest := by
      rw [writeLines, if_neg other, if_neg Bool.false_ne_true]
    rw [first, List.append_assoc, List.cons_append] at read ⊢
    refine (Block.lines_settle inline hint.1 rfl rfl rfl ?_ _ _).trans read
    exact Nat.le_succ _

end Periapsis.Yaml
