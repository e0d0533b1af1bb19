import Periapsis.Yaml.Node

/-!
# Nodes read from tokens

Which tokens are read as which node, with as much fuel as there are tokens and
whatever follows (`ReadAs`): scalars, sequences at the indentation of their
mapping, block mappings, and empty flow mappings. A file that is no more than
such a node is read as its content (`ofTokens?_of_readAs`).
-/

namespace Periapsis.Yaml.Node

/-- Tokens that are read as a node, in block context and in front of anything
but an item. -/
structure ReadAs (asValue : Bool) (tokens : List Token) (x : Node) : Prop where
  starts : follows [.key, .value, .blockEnd] tokens = false
  ne_nil : tokens ≠ []
  read : ∀ n rest, tokens.length + 3 ≤ n → rest.head? ≠ some .item →
    read n true asValue (tokens ++ rest) = some (x, rest)

theorem follows_append {expected tokens : List Token} (ne_nil : tokens ≠ []) (rest : List Token) :
    follows expected (tokens ++ rest) = follows expected tokens := by
  cases tokens with
  | nil => exact absurd rfl ne_nil
  | cons t tokens => rfl

theorem ReadAs.readOptional {tokens : List Token} {x : Node} (h : ReadAs true tokens x) {n : Nat}
    (enough : tokens.length + 4 ≤ n) {rest : List Token} (behind : rest.head? ≠ some .item) :
    readOptional n true [.key, .value, .blockEnd] (tokens ++ rest) = some (x, rest) := by
  obtain ⟨n, rfl⟩ : ∃ n', n = n' + 1 := ⟨n - 1, by omega⟩
  rw [Node.readOptional, follows_append h.ne_nil, h.starts, if_neg Bool.false_ne_true,
    h.read n rest (by omega) behind]

theorem readAs_scalar (asValue plain : Bool) (text : String) :
    ReadAs asValue [.scalar plain text] (scalar plain text) where
  starts := rfl
  ne_nil := nofun
  read n rest enough _ := by
    obtain ⟨n, rfl⟩ : ∃ n', n = n' + 1 := ⟨n - 1, by omega⟩
    rfl

/-! ## Sequences -/

/-- The tokens of plain scalars as items. -/
def itemTokens (texts : List String) : List Token :=
  texts.flatMap fun text => [.item, .scalar true text]

theorem readFlatItems_itemTokens (texts : List String) {n : Nat} (enough : texts.length + 3 ≤ n)
    (items : List Node) {rest : List Token} (behind : rest.head? ≠ some .item) :
    readFlatItems n items (itemTokens texts ++ rest) =
      some (sequence (items.reverse ++ texts.map (scalar true)), rest) := by
  induction texts generalizing n items with
  | nil =>
    obtain ⟨n, rfl⟩ : ∃ n', n = n' + 1 := ⟨n - 1, by omega⟩
    rw [List.map_nil, List.append_nil]
    cases rest with
    | nil => rfl
    | cons t rest =>
      cases t with
      | item => exact absurd rfl behind
      | _ => rfl
  | cons text texts ih =>
    obtain ⟨n, rfl⟩ : ∃ n', n = n' + 3 := ⟨n - 3, by omega⟩
    rw [List.length_cons] at enough
    have later := ih (n := n + 2) (by omega) (scalar true text :: items)
    rw [List.reverse_cons, List.append_assoc] at later
    exact later

theorem length_itemTokens (texts : List String) : (itemTokens texts).length = 2 * texts.length := by
  induction texts with
  | nil => rfl
  | cons text texts ih =>
    rw [itemTokens, List.flatMap_cons, List.length_append, ← itemTokens, ih]
    simp only [List.length_cons, List.length_nil]
    omega

theorem readAs_items {texts : List String} (ne_nil : texts ≠ []) :
    ReadAs true (itemTokens texts) (sequence (texts.map (scalar true))) := by
  obtain ⟨text, more, rfl⟩ := List.exists_cons_of_ne_nil ne_nil
  refine ⟨rfl, nofun, fun n rest enough behind => ?_⟩
  obtain ⟨n, rfl⟩ : ∃ n', n = n' + 1 := ⟨n - 1, by omega⟩
  rw [length_itemTokens, List.length_cons] at enough
  exact readFlatItems_itemTokens (text :: more) (by rw [List.length_cons]; omega) [] behind

/-! ## Mappings -/

/-- Tokens that are read as the pairs of a block mapping. -/
inductive PairsAs : List Token → List (Node × Node) → Prop where
  | nil : PairsAs [] []
  | cons {keyTokens valueTokens tokens : List Token} {key value : Node} {pairs : List (Node × Node)} :
    ReadAs true keyTokens key → ReadAs true valueTokens value → PairsAs tokens pairs →
      PairsAs (.key :: (keyTokens ++ .value :: (valueTokens ++ tokens))) ((key, value) :: pairs)

theorem PairsAs.append {s t : List Token} {pairs more : List (Node × Node)} (h : PairsAs s pairs)
    (h' : PairsAs t more) : PairsAs (s ++ t) (pairs ++ more) := by
  induction h with
  | nil => exact h'
  | cons key value _ ih =>
    simp only [List.cons_append, List.append_assoc]
    exact .cons key value ih

theorem PairsAs.head?_ne_item {tokens : List Token} {pairs : List (Node × Node)}
    (h : PairsAs tokens pairs) (rest : List Token) :
    (tokens ++ .blockEnd :: rest).head? ≠ some .item := by
  cases h <;> nofun

theorem PairsAs.readPairs {tokens : List Token} {pairs : List (Node × Node)}
    (h : PairsAs tokens pairs) {n : Nat} (enough : tokens.length + 4 ≤ n)
    (before : List (Node × Node)) (rest : List Token) :
    readPairs n before (tokens ++ .blockEnd :: rest) =
      some (mapping (before.reverse ++ pairs), rest) := by
  induction h generalizing n before with
  | nil =>
    obtain ⟨n, rfl⟩ : ∃ n', n = n' + 1 := ⟨n - 1, by omega⟩
    rw [List.append_nil]
    rfl
  | @cons keyTokens valueTokens tokens key value pairs hkey hvalue hpairs ih =>
    obtain ⟨n, rfl⟩ : ∃ n', n = n' + 1 := ⟨n - 1, by omega⟩
    simp only [List.length_cons, List.length_append] at enough
    rw [List.cons_append, List.append_assoc, List.cons_append, List.append_assoc, Node.readPairs,
      hkey.readOptional (by omega) (by simp), Option.bind_eq_bind, Option.bind_some]
    dsimp only
    rw [hvalue.readOptional (by omega) (hpairs.head?_ne_item rest), Option.bind_some]
    dsimp only
    rw [ih (by omega), List.reverse_cons, List.append_assoc]
    rfl

theorem readAs_mapping (asValue : Bool) {tokens : List Token} {pairs : List (Node × Node)}
    (h : PairsAs tokens pairs) :
    ReadAs asValue (.mappingStart :: (tokens ++ [.blockEnd])) (mapping pairs) where
  starts := rfl
  ne_nil := nofun
  read n rest enough _ := by
    obtain ⟨n, rfl⟩ : ∃ n', n = n' + 1 := ⟨n - 1, by omega⟩
    simp only [List.length_cons, List.length_append, List.length_nil] at enough
    rw [List.cons_append, List.append_assoc, List.singleton_append]
    exact h.readPairs (by omega) [] rest

/-- Braces with nothing in them are a mapping without pairs. -/
theorem readAs_braces (asValue : Bool) :
    ReadAs asValue [.flowMappingStart, .flowMappingEnd] (mapping []) where
  starts := rfl
  ne_nil := nofun
  read n rest enough _ := by
    obtain ⟨n, rfl⟩ : ∃ n', n = n' + 2 := ⟨n - 2, by simp at enough; omega⟩
    rfl

/-! ## Files -/

theorem ofTokens?_of_readAs {tokens : List Token} {x : Node} (h : ReadAs false tokens x)
    (bare : tokens.head? ≠ some .documentStart) : ofTokens? tokens = some x := by
  have read := h.read (4 * tokens.length + 4) [] (by omega) nofun
  rw [List.append_nil] at read
  unfold ofTokens?
  split
  · exact absurd rfl bare
  · rw [readDocument, read]
    rfl

end Periapsis.Yaml.Node
