import Periapsis.Proofs.Disk
import Periapsis.Proofs.Roster
import Periapsis.Proofs.ScenarioFile.Tokens

/-!
# Written scenarios, read again

The tokens of a written scenario make a mapping of its fields
(`ofTokens?_scenarioTokens`), the fields have the values that were written
(`ofNode?_scenarioNode`), and none of the characters in the file is changed on
the way to a scan (`noSpecials_write`). So a file that a scenario was saved in
holds the same scenario (`scenario_of_write`), whatever its keys and names are
as long as they are without Unicode separators.

Of the numbers it is asked that they are read back from their own text. No more
is asked if all numbers are, but for the undefined one (`savable_of_defined`).
-/

namespace Periapsis.ScenarioFile

open Yaml
open Yaml.Node (ReadAs PairsAs readAs_scalar readAs_items readAs_braces readAs_mapping)

/-! ## Nodes -/

/-- A text as a scalar. -/
def textNode (text : String) : Node :=
  .scalar (decide (Style.of text.toList = .plain)) text

def timeNode (time : Int) : Node :=
  .scalar true (toString time)

def numberNode (x : Float) : Node :=
  .scalar true (numbers.write x)

def listNode (x y z : Float) : Node :=
  .sequence ([x, y, z].map numberNode)

/-- A mapping with plain names. -/
def fieldsNode (fields : List (String × Node)) : Node :=
  .mapping (fields.map fun field => (.scalar true field.1, field.2))

def furtherNodes (a : Actor Float) : List (String × Node) :=
  [("color", listNode a.color.red a.color.green a.color.blue),
    ("radius", numberNode a.radius),
    ("mass", numberNode a.mass),
    ("position", listNode a.state.position.x a.state.position.y a.state.position.z),
    ("velocity", listNode a.state.velocity.x a.state.velocity.y a.state.velocity.z)]

def actorNode (a : Actor Float) : Node :=
  fieldsNode (("name", textNode a.name) :: furtherNodes a)

def bodiesNode (entries : List (String × Actor Float)) : Node :=
  .mapping (entries.map fun entry => (textNode entry.1, actorNode entry.2))

def scenarioNode (s : Scenario Float) : Node :=
  fieldsNode [("time", timeNode s.time), ("bodies", bodiesNode s.bodies.entries)]

theorem pairsAs_field (name : String) {value : List Token} {x : Node} (h : ReadAs true value x) :
    PairsAs (fieldTokens name value) [(.scalar true name, x)] := by
  have single := PairsAs.cons (readAs_scalar true true name) h .nil
  rwa [List.append_nil] at single

theorem pairsAs_number (name : String) (x : Float) :
    PairsAs (numberTokens name x) [(.scalar true name, numberNode x)] :=
  pairsAs_field name (readAs_scalar true true _)

theorem pairsAs_list (name : String) (x y z : Float) :
    PairsAs (listTokens name x y z) [(.scalar true name, listNode x y z)] :=
  pairsAs_field name (readAs_items nofun)

theorem pairsAs_further (a : Actor Float) :
    PairsAs (furtherTokens a) ((furtherNodes a).map fun field => (.scalar true field.1, field.2)) :=
  ((((pairsAs_list "color" ..).append (pairsAs_number "radius" _)).append
    (pairsAs_number "mass" _)).append (pairsAs_list "position" ..)).append
    (pairsAs_list "velocity" ..)

theorem readAs_text (text : String) : ReadAs true [textToken text] (textNode text) :=
  readAs_scalar true _ text

theorem pairsAs_actor (entry : String × Actor Float) :
    PairsAs (actorTokens entry ++ [.blockEnd]) [(textNode entry.1, actorNode entry.2)] := by
  have fields := (pairsAs_field "name" (readAs_text entry.2.name)).append (pairsAs_further entry.2)
  have single := PairsAs.cons (readAs_text entry.1) (readAs_mapping true fields) .nil
  rw [List.append_nil] at single
  exact single

theorem pairsAs_entries (entries : List (String × Actor Float)) :
    PairsAs (entriesTokens entries)
      (entries.map fun entry => (textNode entry.1, actorNode entry.2)) := by
  induction entries with
  | nil => exact .nil
  | cons entry entries ih => exact (pairsAs_actor entry).append ih

theorem readAs_bodies (entries : List (String × Actor Float)) :
    ReadAs true (bodiesTokens entries) (bodiesNode entries) := by
  cases entries with
  | nil => exact readAs_braces true
  | cons entry entries => exact readAs_mapping true (pairsAs_entries (entry :: entries))

theorem ofTokens?_scenarioTokens (s : Scenario Float) :
    Node.ofTokens? (scenarioTokens s) = some (scenarioNode s) := by
  have fields := (pairsAs_field "time" (readAs_scalar true true (toString s.time))).append
    (pairsAs_field "bodies" (readAs_bodies s.bodies.entries))
  exact Node.ofTokens?_of_readAs (readAs_mapping false fields) nofun

/-! ## Values -/

theorem number?_numberNode {x : Float} (h : readNumber? (numbers.chars x) = some x) :
    (numberNode x).number? = some x := by
  rw [numberNode, Node.number?, Layout.write, String.toList_ofList, h]

theorem numbers3?_listNode {x y z : Float} (h : Legible [x, y, z]) :
    (listNode x y z).numbers3? = some (x, y, z) := by
  simp only [Legible, List.forall_mem_cons] at h
  obtain ⟨hx, hy, hz, -⟩ := h
  simp [listNode, Node.numbers3?, number?_numberNode, hx, hy, hz]

/-- The fields of a mapping are found under their keys, however these are written. -/
theorem fields?_mapping (plain : String → Bool) (fields : List (String × Node)) :
    (Node.mapping (fields.map fun field => (.scalar (plain field.1) field.1, field.2))).fields? =
      some fields := by
  rw [Node.fields?]
  induction fields with
  | nil => rfl
  | cons field fields ih =>
    rw [List.map_cons, List.mapM_cons, ih]
    rfl

theorem readActor?_actorNode {a : Actor Float} (legible : Legible (numbersOf a)) :
    readActor? (actorNode a) = some a := by
  have number {x : Float} (among : x ∈ numbersOf a) : (numberNode x).number? = some x :=
    number?_numberNode (legible x among)
  have list {x y z : Float} (among : [x, y, z] ⊆ numbersOf a) :
      (listNode x y z).numbers3? = some (x, y, z) :=
    numbers3?_listNode (legible.of_subset among)
  have name : (textNode a.name).text? = some a.name := rfl
  have color : readColor? (listNode a.color.red a.color.green a.color.blue) = some a.color := by
    rw [readColor?, list (by simp [numbersOf]), Option.map_some]
  have radius : (numberNode a.radius).number? = some a.radius := number (by simp [numbersOf])
  have mass : (numberNode a.mass).number? = some a.mass := number (by simp [numbersOf])
  have position : readVector? (listNode a.state.position.x a.state.position.y a.state.position.z) =
      some a.state.position := by
    rw [readVector?, list (by simp [numbersOf]), Option.map_some]
  have velocity : readVector? (listNode a.state.velocity.x a.state.velocity.y a.state.velocity.z) =
      some a.state.velocity := by
    rw [readVector?, list (by simp [numbersOf]), Option.map_some]
  rw [readActor?, actorNode, fieldsNode, fields?_mapping fun _ => true]
  simp [field?, furtherNodes, name, color, radius, mass, position, velocity]

theorem mapM_readActor? {entries : List (String × Actor Float)}
    (h : ∀ entry ∈ entries, SavableBody entry) :
    (entries.map fun entry => (entry.1, actorNode entry.2)).mapM (fun (key, value) =>
      (readActor? value).map fun a => (key, a)) = some entries := by
  induction entries with
  | nil => rfl
  | cons entry entries ih =>
    obtain ⟨hentry, h⟩ := List.forall_mem_cons.1 h
    rw [List.map_cons, List.mapM_cons, ih h]
    dsimp only
    rw [readActor?_actorNode hentry.legible]
    rfl

theorem fields?_bodiesNode (entries : List (String × Actor Float)) :
    (bodiesNode entries).fields? =
      some (entries.map fun entry => (entry.1, actorNode entry.2)) := by
  rw [← fields?_mapping fun key => decide (Style.of key.toList = .plain), List.map_map]
  rfl

theorem readBodies?_bodiesNode {r : Roster (Actor Float)}
    (h : ∀ entry ∈ r.entries, SavableBody entry) :
    readBodies? (bodiesNode r.entries) = some r := by
  show (bodiesNode r.entries).fields?.bind _ = _
  rw [fields?_bodiesNode, Option.bind_some, mapM_readActor? h]
  exact congrArg some r.ofList_entries

theorem int?_timeNode {time : Int}
    (h : -(Nat.pow 2 63 : Int) ≤ time ∧ time < (Nat.pow 2 63 : Int)) :
    (timeNode time).int? = some time := by
  rw [timeNode, Node.int?, readInt?_toString, Option.filter_some, if_pos]
  rw [decide_eq_true h.1, decide_eq_true h.2, Bool.and_self]

theorem ofNode?_scenarioNode {s : Scenario Float} (h : Savable s) :
    ofNode? (scenarioNode s) = some s := by
  rw [ofNode?, scenarioNode, fieldsNode, fields?_mapping fun _ => true]
  simp [field?, int?_timeNode h.time, readBodies?_bodiesNode h.bodies]

/-! ## Characters -/

theorem noSpecials_line (indent : Nat) {text : List Char} (h : NoSpecials text) :
    NoSpecials (line indent text) :=
  noSpecials_append.2 ⟨noSpecials_append.2 ⟨noSpecials_replicate indent (by decide), h⟩, by decide⟩

theorem noSpecials_numberField {name : String} (hname : name ∈ fieldNames) {x : Float}
    (legible : readNumber? (numbers.chars x) = some x) : NoSpecials (numberField name x) := by
  refine noSpecials_line 4 (noSpecials_append.2 ⟨noSpecials_append.2 ⟨?_, by decide⟩, ?_⟩)
  · exact (written_name hname).1.noSpecials
  · exact (written_number legible).noSpecials

theorem noSpecials_listField {name : String} (hname : name ∈ fieldNames) {x y z : Float}
    (legible : Legible [x, y, z]) : NoSpecials (listField name x y z) := by
  refine noSpecials_append.2 ⟨noSpecials_line 4 (noSpecials_append.2 ⟨?_, by decide⟩), ?_⟩
  · exact (written_name hname).1.noSpecials
  · intro c hc
    obtain ⟨x', hx, hc⟩ := List.mem_flatMap.1 hc
    exact noSpecials_line 4
      (noSpecials_append.2 ⟨by decide, (written_number (legible x' hx)).noSpecials⟩) c hc

theorem noSpecials_furtherFields {a : Actor Float} (legible : Legible (numbersOf a)) :
    NoSpecials (furtherFields a) := by
  simp only [furtherFields, noSpecials_append]
  refine ⟨⟨⟨⟨?_, ?_⟩, ?_⟩, ?_⟩, ?_⟩
  · exact noSpecials_listField (by decide) (legible.of_subset (by simp [numbersOf]))
  · exact noSpecials_numberField (by decide) (legible _ (by simp [numbersOf]))
  · exact noSpecials_numberField (by decide) (legible _ (by simp [numbersOf]))
  · exact noSpecials_listField (by decide) (legible.of_subset (by simp [numbersOf]))
  · exact noSpecials_listField (by decide) (legible.of_subset (by simp [numbersOf]))

theorem noSpecials_writeKey {key : List Char} (noSeparators : NoSeparators key) :
    NoSpecials (writeKey key) := by
  unfold writeKey
  split
  · exact noSpecials_append.2
      ⟨noSpecials_append.2 ⟨by decide, noSpecials_writeText noSeparators 4⟩, by decide⟩
  · rename_i oneLine
    have written := (written_key noSeparators (by simpa using oneLine)).1
    exact noSpecials_append.2
      ⟨noSpecials_line 2 (noSpecials_append.2 ⟨written.noSpecials, by decide⟩), by decide⟩

theorem noSpecials_writeActor {entry : String × Actor Float} (h : SavableBody entry) :
    NoSpecials (writeActor entry) := by
  simp only [writeActor, noSpecials_append]
  exact ⟨⟨⟨noSpecials_writeKey h.key, by decide⟩, noSpecials_writeText h.name 6⟩,
    noSpecials_furtherFields h.legible⟩

theorem noSpecials_writeBodies {entries : List (String × Actor Float)}
    (h : ∀ entry ∈ entries, SavableBody entry) : NoSpecials (writeBodies entries) := by
  unfold writeBodies
  split
  · decide
  · refine noSpecials_append.2 ⟨by decide, fun c hc => ?_⟩
    obtain ⟨entry, hentry, hc⟩ := List.mem_flatMap.1 hc
    exact noSpecials_writeActor (h entry hentry) c hc

theorem noSpecials_write {s : Scenario Float} (h : Savable s) : NoSpecials (write s).toList := by
  rw [write, String.toList_ofList, noSpecials_append]
  have time : Written (toString s.time).toList (toString s.time).toList true :=
    .plain (plainText_toString s.time)
  exact ⟨noSpecials_line 0 (noSpecials_append.2 ⟨by decide, time.noSpecials⟩),
    noSpecials_writeBodies h.bodies⟩

/-! ## Files -/

/-- If all numbers but the undefined one are read back, it is enough that a
scenario is without it. -/
theorem savable_of_defined
    (back : ∀ x : Float, x.isNaN = false → readNumber? (numbers.chars x) = some x)
    {s : Scenario Float} (time : -(Nat.pow 2 63 : Int) ≤ s.time ∧ s.time < (Nat.pow 2 63 : Int))
    (texts : ∀ entry ∈ s.bodies.entries,
      NoSeparators entry.1.toList ∧ NoSeparators entry.2.name.toList)
    (defined : ∀ entry ∈ s.bodies.entries, ∀ x ∈ numbersOf entry.2, x.isNaN = false) :
    Savable s := by
  refine ⟨time, fun entry hentry => ?_⟩
  obtain ⟨key, name⟩ := texts entry hentry
  exact ⟨key, name, fun x hx => back x (defined entry hentry x hx)⟩

/-- A written scenario is read as it was. -/
theorem read_write {s : Scenario Float} (h : Savable s) :
    read (Utf8.encode (write s).toList) = .ok s := by
  have back : (source (Utf8.encode (write s).toList) >>= Token.scan? >>= Node.ofTokens? >>=
      ofNode?) = some s := by
    simp only [Option.bind_eq_bind, source_encode (noSpecials_write h), Option.bind_some,
      scan?_write h, ofTokens?_scenarioTokens, ofNode?_scenarioNode h]
  rw [read, back]

/-- A scenario that is saved is loaded again from where it was saved. -/
theorem scenario_of_write {s : Scenario Float} (h : Savable s) {disk disk' : Disk} {path : String}
    (saved : disk.write path (write s) = some disk') : (disk'.lookup path).scenario = .ok s := by
  rw [Disk.lookup_of_write saved, Entry.scenario, read_write h]

/-- A scenario with keys and names that cannot be written as they are. -/
def unruly : Scenario Float :=
  let body (name : String) : Actor Float := {
    name := name, color := ⟨0.1, 1.0 / 0.0, 0⟩, radius := -1.0 / 0.0, mass := 1e300
    state := ⟨⟨-0.0, 5e-324, 149.6e9⟩, ⟨-29.78e3, 0.3, 1⟩⟩ }
  { time := -9223372036854775808
    bodies := .ofList [
      ("", body "null"),
      ("1e3", body "\t- \"\u0085\" #"),
      ("up\ndown", body " two\nlines\n\n"),
      ("a: \x7b\x7d", body "\x00\x5c")] }

theorem savable_unruly : Savable unruly := by
  refine ⟨by decide, fun entry hentry => ?_⟩
  have all : ∀ entry ∈ unruly.bodies.entries, NoSeparators entry.1.toList ∧
      NoSeparators entry.2.name.toList ∧ Legible (numbersOf entry.2) := by
    decide +kernel
  obtain ⟨key, name, legible⟩ := all entry hentry
  exact ⟨key, name, legible⟩

theorem scenario_of_write_unruly :
    let disk : Disk := { directories := [], files := [] }
    ∃ disk', disk.write "scenario.yaml" (write unruly) = some disk' ∧
      (disk'.lookup "scenario.yaml").scenario = .ok unruly := by
  intro disk
  have writable : disk.Writable "scenario.yaml" :=
    ⟨["scenario.yaml"], by decide +kernel, .inl rfl, by decide⟩
  obtain ⟨disk', saved⟩ : ∃ disk', disk.write "scenario.yaml" (write unruly) = some disk' :=
    Disk.exists_write_iff.2 writable
  exact ⟨disk', saved, scenario_of_write savable_unruly saved⟩

end Periapsis.ScenarioFile
