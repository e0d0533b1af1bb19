import Mathlib.Data.List.Perm.Basic
import Periapsis.Roster

/-!
# What a roster holds

A roster holds what it is given as long as no key comes twice, and only the
order is its own:

* `perm_ofList`: under keys that differ the entries of a roster are those that
  it was made of;
* `get?_eq_some_iff`: a key leads to a value exactly when the roster has both
  in one entry;
* `ofList_entries`: a roster is made again of its own entries;
* `map_ofList`: a roster made of changed values is the changed roster.
-/

namespace Periapsis

/-- Under keys that differ a key is looked up to the value that it stands with. -/
theorem lookup_eq_some_iff_mem {β : Type} {entries : List (String × β)}
    (distinct : (entries.map Prod.fst).Nodup) (key : String) (value : β) :
    entries.lookup key = some value ↔ (key, value) ∈ entries := by
  induction entries with
  | nil => exact ⟨nofun, nofun⟩
  | cons entry rest ih =>
    obtain ⟨first, other⟩ := entry
    rw [List.map_cons, List.nodup_cons] at distinct
    rw [List.lookup_cons, List.mem_cons, Prod.mk.injEq]
    by_cases same : key = first
    · subst same
      have later : (key, value) ∉ rest := fun h => distinct.1 (List.mem_map.2 ⟨_, h, rfl⟩)
      simp [later, eq_comm]
    · simp [beq_eq_false_iff_ne.2 same, same, ih distinct.2]

namespace Roster

variable {β : Type}

/-- The keys in their order. -/
def keys (r : Roster β) : List String :=
  r.entries.map Prod.fst

theorem nodup_keys (r : Roster β) : r.keys.Nodup := by
  rw [keys, List.Nodup, List.pairwise_map]
  refine r.increasing.imp fun {a b} less same => ?_
  rw [same] at less
  exact String.lt_irrefl _ less

theorem perm_place {key : String} {entries : List (String × β)}
    (fresh : key ∉ entries.map Prod.fst) (value : β) :
    (place key value entries).Perm ((key, value) :: entries) := by
  induction entries with
  | nil => exact .refl _
  | cons entry rest ih =>
    rw [List.map_cons, List.mem_cons, not_or] at fresh
    rw [place]
    split
    · exact .refl _
    · rw [if_neg fresh.1]
      exact ((ih fresh.2).cons entry).trans (.swap ..)

theorem perm_insert {r : Roster β} {key : String} (fresh : key ∉ r.keys) (value : β) :
    (r.insert key value).entries.Perm ((key, value) :: r.entries) :=
  perm_place fresh value

theorem perm_foldl_insert {entries : List (String × β)} (r : Roster β)
    (distinct : (r.keys ++ entries.map Prod.fst).Nodup) :
    (entries.foldl (fun r (key, value) => r.insert key value) r).entries.Perm
      (r.entries ++ entries) := by
  induction entries generalizing r with
  | nil => rw [List.append_nil]; exact .refl _
  | cons entry entries ih =>
    obtain ⟨key, value⟩ := entry
    rw [List.map_cons] at distinct
    have fresh : key ∉ r.keys := fun h =>
      (List.nodup_append.1 distinct).2.2 key h key List.mem_cons_self rfl
    have grown := perm_insert fresh value
    have keys_grown : (r.insert key value).keys.Perm (key :: r.keys) := grown.map Prod.fst
    have split : (r.keys ++ key :: entries.map Prod.fst).Perm
        ((r.insert key value).keys ++ entries.map Prod.fst) :=
      List.perm_middle.trans (keys_grown.symm.append_right _)
    calc
      _ = (entries.foldl (fun r (key, value) => r.insert key value) (r.insert key value)).entries :=
        rfl
      (_ : List (String × β)).Perm ((r.insert key value).entries ++ entries) :=
        ih _ (split.nodup distinct)
      (_ : List (String × β)).Perm ((key, value) :: r.entries ++ entries) := grown.append_right _
      (_ : List (String × β)).Perm (r.entries ++ (key, value) :: entries) := List.perm_middle.symm

/-- Under keys that differ a roster holds what it was made of, and nothing else. -/
theorem perm_ofList {entries : List (String × β)} (distinct : (entries.map Prod.fst).Nodup) :
    (ofList entries).entries.Perm entries :=
  perm_foldl_insert empty distinct

theorem get?_eq_some_iff (r : Roster β) (key : String) (value : β) :
    r.get? key = some value ↔ (key, value) ∈ r.entries :=
  lookup_eq_some_iff_mem r.nodup_keys key value

/-- Rosters with the same entries in any order are the same. -/
theorem eq_of_perm {r s : Roster β} (h : r.entries.Perm s.entries) : r = s := by
  obtain ⟨entries, increasing⟩ := r
  obtain ⟨others, increasing'⟩ := s
  congr
  refine List.Perm.eq_of_pairwise (fun a b _ _ less greater => ?_) increasing increasing' h
  exact absurd (String.lt_trans less greater) (String.lt_irrefl _)

theorem ofList_entries (r : Roster β) : ofList r.entries = r :=
  eq_of_perm (perm_ofList r.nodup_keys)

/-! ## Changed values -/

variable {γ : Type}

/-- Changes every value, which may look at its key. -/
def map (f : String → β → γ) (r : Roster β) : Roster γ where
  entries := r.entries.map fun entry => (entry.1, f entry.1 entry.2)
  increasing := List.pairwise_map.2 r.increasing

/-- Where a value is placed is a matter of the keys. -/
theorem map_place (f : String → β → γ) (key : String) (value : β) (entries : List (String × β)) :
    (place key value entries).map (fun entry => (entry.1, f entry.1 entry.2)) =
      place key (f key value) (entries.map fun entry => (entry.1, f entry.1 entry.2)) := by
  induction entries with
  | nil => rfl
  | cons entry rest ih =>
    rw [List.map_cons, place, place]
    split
    · rfl
    · split
      · rfl
      · rw [List.map_cons, ih]

theorem map_insert (f : String → β → γ) (r : Roster β) (key : String) (value : β) :
    (r.insert key value).map f = (r.map f).insert key (f key value) := by
  simp only [map, insert, map_place]

theorem map_ofList (f : String → β → γ) (entries : List (String × β)) :
    (ofList entries).map f = ofList (entries.map fun entry => (entry.1, f entry.1 entry.2)) := by
  rw [ofList, ofList, List.foldl_map]
  exact (List.foldl_hom (map f) fun r entry => (map_insert f r entry.1 entry.2).symm).symm

end Roster

end Periapsis
