import Periapsis.Proofs.Yaml.Lines
import Periapsis.Proofs.Yaml.Node
import Periapsis.ScenarioFile

/-!
# The tokens of scenario files

What a scan finds in a written scenario (`scan?_write`), line by line: the field
with the time, and each body under its key with its own fields. Keys that are
too long for a line, or have lines of their own, give the same tokens as others.
-/

namespace Periapsis.ScenarioFile

open Yaml Yaml.Scan

/-! ## What is written -/

/-- The numbers of a body. -/
def numbersOf (a : Actor Float) : List Float :=
  [a.color.red, a.color.green, a.color.blue, a.radius, a.mass,
    a.state.position.x, a.state.position.y, a.state.position.z,
    a.state.velocity.x, a.state.velocity.y, a.state.velocity.z]

/-- Numbers that are read back from what is written for them. -/
def Legible (xs : List Float) : Prop :=
  ∀ x ∈ xs, readNumber? (numbers.chars x) = some x

instance (xs : List Float) : Decidable (Legible xs) :=
  inferInstanceAs (Decidable (∀ x ∈ xs, _))

theorem Legible.of_subset {xs ys : List Float} (h : Legible ys) (among : xs ⊆ ys) : Legible xs :=
  fun x hx => h x (among hx)

/-- A body that a file can hold: its key and its name have none of the separators
that end lines for the reader only, and its numbers are legible. -/
structure SavableBody (entry : String × Actor Float) : Prop where
  key : NoSeparators entry.1.toList
  name : NoSeparators entry.2.name.toList
  legible : Legible (numbersOf entry.2)

/-- A scenario that a file can hold. -/
structure Savable (s : Scenario Float) : Prop where
  time : -(Nat.pow 2 63 : Int) ≤ s.time ∧ s.time < (Nat.pow 2 63 : Int)
  bodies : ∀ entry ∈ s.bodies.entries, SavableBody entry

/-- The token of a text. -/
def textToken (text : String) : Token :=
  .scalar (decide (Style.of text.toList = .plain)) text

/-- The tokens of a field with those of its value. -/
def fieldTokens (name : String) (value : List Token) : List Token :=
  .key :: .scalar true name :: .value :: value

def numberTokens (name : String) (x : Float) : List Token :=
  fieldTokens name [.scalar true (numbers.write x)]

def listTokens (name : String) (x y z : Float) : List Token :=
  fieldTokens name (Node.itemTokens ([x, y, z].map numbers.write))

def furtherTokens (a : Actor Float) : List Token :=
  listTokens "color" a.color.red a.color.green a.color.blue
    ++ numberTokens "radius" a.radius
    ++ numberTokens "mass" a.mass
    ++ listTokens "position" a.state.position.x a.state.position.y a.state.position.z
    ++ listTokens "velocity" a.state.velocity.x a.state.velocity.y a.state.velocity.z

/-- The tokens of a body under its key, up to the end of its mapping. -/
def actorTokens (entry : String × Actor Float) : List Token :=
  .key :: textToken entry.1 :: .value :: .mappingStart ::
    (fieldTokens "name" [textToken entry.2.name] ++ furtherTokens entry.2)

/-- The tokens of bodies with the ends of their mappings. -/
def entriesTokens (entries : List (String × Actor Float)) : List Token :=
  entries.flatMap fun entry => actorTokens entry ++ [.blockEnd]

def bodiesTokens (entries : List (String × Actor Float)) : List Token :=
  match entries with
  | [] => [.flowMappingStart, .flowMappingEnd]
  | entries => .mappingStart :: (entriesTokens entries ++ [.blockEnd])

def scenarioTokens (s : Scenario Float) : List Token :=
  .mappingStart :: (fieldTokens "time" [.scalar true (toString s.time)]
    ++ fieldTokens "bodies" (bodiesTokens s.bodies.entries) ++ [.blockEnd])

/-! ## Fields -/

variable {line : Nat} {outer outer' : List Int} {before before' tokens : List Token}
  {rest : List Char}

def fieldNames : List String :=
  ["time", "bodies", "name", "color", "radius", "mass", "position", "velocity"]

/-- The names of fields are written plain, and short enough for keys. -/
theorem written_name {name : String} (h : name ∈ fieldNames) :
    Written name.toList name.toList true ∧ (Utf8.encode name.toList).length ≤ 1024 := by
  have words : ∀ name ∈ fieldNames, name.toList ≠ [] ∧ name.toList.all Char.isLower = true ∧
      (Utf8.encode name.toList).length ≤ 1024 := by
    decide
  obtain ⟨ne_nil, lower, short⟩ := words name h
  exact ⟨.plain (.of_isLower ne_nil lower), short⟩

/-- A field with its value in the same line. -/
theorem leads_field {name : String} (hname : name ∈ fieldNames) {k : Nat} {indent : Int}
    (opens : Opens k indent outer before outer' before') (ready : Ready rest)
    (next : ∀ m : Mark, k < m.column →
      (place m false k outer' ((fieldTokens name []).reverse ++ before') rest).Leads tokens) :
    (lineStart line k indent outer before (name.toList ++ ':' :: ' ' :: rest)).Leads tokens := by
  obtain ⟨written, short⟩ := written_name hname
  refine leads_key_value written short opens ready fun m inside => ?_
  rw [String.ofList_toList]
  exact next m inside

/-- A field with its value on the next lines. -/
theorem leads_heading {name : String} (hname : name ∈ fieldNames) {k j : Nat} {indent : Int}
    (opens : Opens k indent outer before outer' before') (ready : Ready rest)
    (next : ∀ line, ((lineStart line j k outer' ((fieldTokens name []).reverse ++ before')
      rest).unindent j).Leads tokens) :
    (lineStart line k indent outer before
      (name.toList ++ ':' :: '\n' :: (List.replicate j ' ' ++ rest))).Leads tokens := by
  obtain ⟨written, short⟩ := written_name hname
  refine leads_key_line written short opens ready fun line => ?_
  rw [String.ofList_toList]
  exact next line

theorem written_number {x : Float} (h : readNumber? (numbers.chars x) = some x) :
    Written (numbers.chars x) (numbers.chars x) true :=
  .plain (plainText_of_readNumber? h)

theorem resumes_numberField {name : String} (hname : name ∈ fieldNames) {x : Float}
    (legible : readNumber? (numbers.chars x) = some x)
    (next : Resumes 4 outer ((numberTokens name x).reverse ++ before) rest tokens) :
    Resumes 4 outer before (numberField name x ++ rest) tokens := by
  have number := written_number legible
  have text : numberField name x ++ rest = List.replicate 4 ' ' ++
      (name.toList ++ ':' :: ' ' :: (numbers.chars x ++ '\n' :: rest)) := by
    simp [numberField, ScenarioFile.line]
  rw [text]
  refine .of_lineStart ((written_name hname).1.ready _) fun line => ?_
  exact leads_field hname .inside (number.ready _) fun m inside => leads_written number inside next

/-- The items of a list stand at the indentation of its field. -/
theorem resumes_items {xs : List Float} (legible : Legible xs)
    (next : Resumes 4 outer ((Node.itemTokens (xs.map numbers.write)).reverse ++ before) rest
      tokens) :
    Resumes 4 outer before
      (xs.flatMap (fun x => ScenarioFile.line 4 ("- ".toList ++ numbers.chars x)) ++ rest)
      tokens := by
  induction xs generalizing before with
  | nil => exact next
  | cons x xs ih =>
    obtain ⟨hx, legible⟩ := List.forall_mem_cons.1 legible
    have number := written_number hx
    have text :
        (x :: xs).flatMap (fun x => ScenarioFile.line 4 ("- ".toList ++ numbers.chars x)) ++ rest =
          List.replicate 4 ' ' ++ ('-' :: ' ' :: (numbers.chars x ++ '\n' ::
            (xs.flatMap (fun x => ScenarioFile.line 4 ("- ".toList ++ numbers.chars x))
              ++ rest))) := by
      simp [ScenarioFile.line]
    rw [text]
    have tokens : (Node.itemTokens ((x :: xs).map numbers.write)).reverse ++ before =
        (Node.itemTokens (xs.map numbers.write)).reverse ++
          (.scalar true (numbers.write x) :: .item :: before) := by
      simp [Node.itemTokens]
    rw [tokens] at next
    exact .of_lineStart (.cons (by decide)) fun line => leads_item (number.ready _)
      (leads_written number (show 4 < 4 + 2 by decide) (ih legible next))

theorem resumes_listField {name : String} (hname : name ∈ fieldNames) {x y z : Float}
    (legible : Legible [x, y, z])
    (next : Resumes 4 outer ((listTokens name x y z).reverse ++ before) rest tokens) :
    Resumes 4 outer before (listField name x y z ++ rest) tokens := by
  have items : Resumes 4 outer ((fieldTokens name []).reverse ++ before)
      ([x, y, z].flatMap (fun x => ScenarioFile.line 4 ("- ".toList ++ numbers.chars x)) ++ rest)
      tokens :=
    resumes_items legible (by simpa [listTokens, fieldTokens] using next)
  obtain ⟨k, tail, split, -, ready, next⟩ := items
  have text : listField name x y z ++ rest = List.replicate 4 ' ' ++
      (name.toList ++ ':' :: '\n' :: (List.replicate k ' ' ++ tail)) := by
    rw [← split]
    simp [listField, ScenarioFile.line]
  rw [text]
  exact .of_lineStart ((written_name hname).1.ready _) fun line =>
    leads_heading hname .inside ready next

/-! ## Bodies -/

theorem resumes_furtherFields {a : Actor Float} (legible : Legible (numbersOf a))
    (next : Resumes 4 outer ((furtherTokens a).reverse ++ before) rest tokens) :
    Resumes 4 outer before (furtherFields a ++ rest) tokens := by
  simp only [furtherFields, List.append_assoc]
  simp only [furtherTokens, List.reverse_append, List.append_assoc] at next
  refine resumes_listField (by decide) (legible.of_subset (by simp [numbersOf])) ?_
  refine resumes_numberField (by decide) (legible _ (by simp [numbersOf])) ?_
  refine resumes_numberField (by decide) (legible _ (by simp [numbersOf])) ?_
  refine resumes_listField (by decide) (legible.of_subset (by simp [numbersOf])) ?_
  exact resumes_listField (by decide) (legible.of_subset (by simp [numbersOf])) next

/-- A key in one line is short enough for a scan to find it. -/
theorem written_key {key : List Char} (noSeparators : NoSeparators key)
    (oneLine : needsLongForm key = false) :
    Written key (writeScalar 2 key) (decide (Style.of key = .plain)) ∧
      (Utf8.encode (writeScalar 2 key)).length ≤ 1024 := by
  simp only [needsLongForm, Bool.or_eq_false_iff, decide_eq_false_iff_not] at oneLine
  obtain ⟨short, noBreak⟩ := oneLine
  have noLiteral : Style.of key ≠ .literal := fun literal =>
    List.any_eq_false.1 noBreak _ ((literal_iff key).1 literal).1 (by decide)
  have written := written_writeScalar noSeparators noLiteral 2
  have := written.length_encode_le
  exact ⟨written, by omega⟩

/-- A key is followed by the mapping of its body, whichever way it is written. -/
theorem leads_writeKey {key : String} (noSeparators : NoSeparators key.toList) {indent : Int}
    (opens : Opens 2 indent outer before outer' before') (ready : Ready rest)
    (next : ∀ line, (lineStart line 4 2 outer'
      (.value :: textToken key :: .key :: before') rest).Leads tokens) :
    ∃ tail, writeKey key.toList ++ rest = List.replicate 2 ' ' ++ tail ∧ Ready tail ∧
      ∀ line, (lineStart line 2 indent outer before tail).Leads tokens := by
  have token : textToken key =
      .scalar (decide (Style.of key.toList = .plain)) (String.ofList key.toList) := by
    rw [String.ofList_toList]
    rfl
  rw [token] at next
  unfold writeKey
  split
  · refine ⟨'?' :: ' ' :: (writeText 4 key.toList ++ (List.replicate 2 ' ' ++ ':' :: ' ' :: rest)),
      by simp, .cons (by decide), fun line => ?_⟩
    refine leads_question opens (ready_writeText noSeparators 4 _)
      (leads_text noSeparators (show 2 < 4 by decide) ?_)
    exact .of_lineStart (.cons (by decide)) fun line => leads_colon ready (next line)
  · rename_i oneLine
    obtain ⟨written, short⟩ := written_key noSeparators (by simpa using oneLine)
    refine ⟨writeScalar 2 key.toList ++ ':' :: '\n' :: (List.replicate 4 ' ' ++ rest),
      by simp [ScenarioFile.line], written.ready _, fun line => ?_⟩
    refine leads_key_line written short opens ready fun line => ?_
    rw [unindent_of_le (show (2 : Int) ≤ 4 by decide)]
    exact next line

/-- What a scan finds in a body under its key, where the mapping of the bodies
starts or goes on. -/
theorem leads_writeActor {entry : String × Actor Float} (h : SavableBody entry) {indent : Int}
    (opens : Opens 2 indent outer before outer' before')
    (next : Resumes 4 (2 :: outer') ((actorTokens entry).reverse ++ before') rest tokens) :
    ∃ tail, writeActor entry ++ rest = List.replicate 2 ' ' ++ tail ∧ Ready tail ∧
      ∀ line, (lineStart line 2 indent outer before tail).Leads tokens := by
  have text : writeActor entry ++ rest = writeKey entry.1.toList ++ ("name".toList ++ ':' :: ' ' ::
      (writeText (4 + 2) entry.2.name.toList ++ (furtherFields entry.2 ++ rest))) := by
    simp [writeActor]
  rw [text]
  refine leads_writeKey h.key opens ((written_name (by decide)).1.ready _) fun line => ?_
  refine leads_field (by decide) (.start (by decide)) (ready_writeText h.name _ _)
    fun m inside => ?_
  refine leads_text h.name inside (resumes_furtherFields h.legible ?_)
  simpa [actorTokens, fieldTokens, textToken] using next

/-- The further bodies, and the ends of the three mappings behind the last one. -/
theorem resumes_writeActors {entries : List (String × Actor Float)}
    (h : ∀ entry ∈ entries, SavableBody entry) :
    Resumes 4 [2, 0, -1] before (entries.flatMap writeActor)
      (before.reverse ++ .blockEnd :: (entriesTokens entries ++ [.blockEnd, .blockEnd])) := by
  induction entries generalizing before with
  | nil =>
    refine ⟨0, [], rfl, Nat.zero_le _, nofun, fun line => ?_⟩
    rw [unindent_lineStart (by decide), unindent_lineStart (by decide),
      unindent_of_le (show (0 : Int) ≤ 0 by decide)]
    simpa [entriesTokens] using leads_end line (.blockEnd :: .blockEnd :: before)
  | cons entry entries ih =>
    obtain ⟨hentry, h⟩ := List.forall_mem_cons.1 h
    have later : Resumes 4 [2, 0, -1] ((actorTokens entry).reverse ++ .blockEnd :: before)
        (entries.flatMap writeActor) _ := ih h
    obtain ⟨tail, text, ready, next⟩ := leads_writeActor hentry .inside later
    refine ⟨2, tail, text, by decide, ready, fun line => ?_⟩
    rw [unindent_lineStart (by decide), unindent_of_le (show (2 : Int) ≤ 2 by decide)]
    simpa [entriesTokens] using next line

/-! ## Files -/

theorem resumes_writeBodies {entries : List (String × Actor Float)}
    (h : ∀ entry ∈ entries, SavableBody entry) :
    Resumes 0 [-1] before (writeBodies entries)
      (before.reverse ++ (fieldTokens "bodies" (bodiesTokens entries) ++ [.blockEnd])) := by
  cases entries with
  | nil =>
    have text : writeBodies [] = List.replicate 0 ' ' ++
        ("bodies".toList ++ ':' :: ' ' :: '\x7b' :: '\x7d' :: '\n' :: []) := rfl
    rw [text]
    refine .of_lineStart ((written_name (by decide)).1.ready _) fun line => ?_
    refine leads_field (by decide) .inside (.cons (by decide)) fun m inside => ?_
    refine leads_braces inside ⟨0, [], rfl, Nat.zero_le _, nofun, fun line => ?_⟩
    rw [unindent_of_le (show (0 : Int) ≤ 0 by decide)]
    simpa [fieldTokens, bodiesTokens] using leads_end line (.flowMappingEnd :: .flowMappingStart ::
      ((fieldTokens "bodies" []).reverse ++ before))
  | cons entry entries =>
    obtain ⟨hentry, h⟩ := List.forall_mem_cons.1 h
    have opens : Opens 2 0 [-1] ((fieldTokens "bodies" []).reverse ++ before) [0, -1]
        (.mappingStart :: ((fieldTokens "bodies" []).reverse ++ before)) := .start (by decide)
    obtain ⟨tail, first, ready, next⟩ := leads_writeActor hentry opens (resumes_writeActors h)
    have text : writeBodies (entry :: entries) = List.replicate 0 ' ' ++
        ("bodies".toList ++ ':' :: '\n' :: (List.replicate 2 ' ' ++ tail)) := by
      rw [← first]
      simp [writeBodies, ScenarioFile.line]
    rw [text]
    refine .of_lineStart ((written_name (by decide)).1.ready _) fun line => ?_
    refine leads_heading (by decide) .inside ready fun line => ?_
    rw [unindent_of_le (show (0 : Int) ≤ 2 by decide)]
    simpa [fieldTokens, bodiesTokens, entriesTokens] using next line

/-- What a scan finds in the file of a scenario. -/
theorem scan?_write {s : Scenario Float} (h : Savable s) :
    Token.scan? (write s).toList = some (scenarioTokens s) := by
  have time : Written (toString s.time).toList (toString s.time).toList true :=
    .plain (plainText_toString s.time)
  have text : (write s).toList = "time".toList ++ ':' :: ' ' ::
      ((toString s.time).toList ++ '\n' :: writeBodies s.bodies.entries) := by
    simp [write, ScenarioFile.line]
  rw [text]
  refine scan?_of_lineStart ((written_name (by decide)).1.ready _) ?_
  refine leads_field (by decide) (.start (by decide)) (time.ready _) fun m inside => ?_
  refine leads_written time inside ?_
  rw [String.ofList_toList]
  exact resumes_writeBodies h.bodies

end Periapsis.ScenarioFile
