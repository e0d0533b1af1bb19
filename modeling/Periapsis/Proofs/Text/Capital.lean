import Periapsis.Text.Capital

/-!
# Texts with the same capital form

The capital form of a character stands in one of two tables: it is spelled with
several characters, or it is one character at the distance that its run of
letters has (`capital_cases`, `capitalShift_cases`). What holds of all
characters is therefore looked up in each table once:

* `capital_eq_S_iff`: three letters have the capital S, one of them outside of
  ASCII;
* `capitalized_eq_sun_iff`: so three texts are capitalized to Sun.
-/

namespace Periapsis.Text

theorem capital_cases (c : Char) :
    (∃ spelling, (c.toNat, spelling) ∈ capitalSpellings ∧ capital c = spelling.map Char.ofNat) ∨
      capital c = [Char.ofNat (c.toNat + capitalShift c.toNat).toNat] := by
  unfold capital
  split
  · rename_i spelling found
    obtain ⟨before, after, split, -⟩ := List.lookup_eq_some_iff.1 found
    refine .inl ⟨spelling, ?_, rfl⟩
    rw [split]
    exact List.mem_append_right _ List.mem_cons_self
  · exact .inr rfl

/-- What is at a distance from its capital lies in a run of letters with this distance. -/
theorem capitalShift_cases (n : Nat) :
    capitalShift n = 0 ∨
      ∃ first last step shift, (first, last, step, shift) ∈ capitalRuns ∧
        first ≤ n ∧ n ≤ last ∧ capitalShift n = shift := by
  unfold capitalShift
  generalize found : List.find? _ capitalRuns = run
  cases run with
  | none => exact .inl rfl
  | some run =>
    obtain ⟨first, last, step, shift⟩ := run
    have inside := List.find?_some found
    simp only [Bool.and_eq_true, decide_eq_true_eq] at inside
    exact .inr ⟨first, last, step, shift, List.mem_of_find?_eq_some found, inside.1.1,
      inside.1.2, rfl⟩

/-! ## The capital S -/

/-- A spelling has a second character, which is never a small U. -/
theorem second_of_mem_capitalSpellings :
    ∀ entry ∈ capitalSpellings,
      1 < entry.2.length ∧ (entry.2.map Char.ofNat)[1]? ≠ some 'u' := by
  decide +kernel

/-- The letters of the runs whose distance leads to the letter S. -/
theorem eq_of_mem_capitalRuns :
    ∀ run ∈ capitalRuns, (run.1 : Int) ≤ 0x53 - run.2.2.2 → 0x53 - run.2.2.2 ≤ run.2.1 →
      0x53 - run.2.2.2 = 0x73 ∨ 0x53 - run.2.2.2 = 0x17F := by
  decide +kernel

theorem toNat_ofNat_cases (n : Nat) : (Char.ofNat n).toNat = n ∨ (Char.ofNat n).toNat = 0 := by
  by_cases valid : n.isValidChar
  · rw [Char.ofNat, dif_pos valid]
    exact .inl rfl
  · rw [Char.ofNat, dif_neg valid]
    exact .inr rfl

theorem toNat_cases_of_capital {c : Char} (h : c.toNat + capitalShift c.toNat = 0x53) :
    c.toNat = 0x73 ∨ c.toNat = 0x53 ∨ c.toNat = 0x17F := by
  rcases capitalShift_cases c.toNat with none | ⟨first, last, step, shift, mem, low, high, eq⟩
  · omega
  · have run := eq_of_mem_capitalRuns _ mem
    dsimp only at run
    omega

theorem capital_eq_S_iff (c : Char) : capital c = ['S'] ↔ c = 's' ∨ c = 'S' ∨ c = 'ſ' := by
  constructor
  · intro h
    rcases capital_cases c with ⟨spelling, mem, spelled⟩ | single
    · have long := (second_of_mem_capitalSpellings _ mem).1
      have short := congrArg List.length (spelled.symm.trans h)
      rw [List.length_map] at short
      simp only [short, List.length_singleton, Nat.lt_irrefl] at long
    · rw [single, List.singleton_inj] at h
      have value := congrArg Char.toNat h
      have cases := toNat_ofNat_cases (c.toNat + capitalShift c.toNat).toNat
      have letter : 'S'.toNat = 0x53 := rfl
      have at_S := toNat_cases_of_capital (c := c) (by omega)
      rw [← Char.toNat_inj, ← Char.toNat_inj, ← Char.toNat_inj]
      exact at_S
  · rintro (rfl | rfl | rfl) <;> decide +kernel

/-- The name of the Sun is only made of a capital of one character: a spelled one would put
something else than a small U behind the S. -/
theorem capital_append_eq_sun {first : Char} {rest : List Char}
    (h : capital first ++ rest = ['S', 'u', 'n']) : capital first = ['S'] ∧ rest = ['u', 'n'] := by
  rcases capital_cases first with ⟨spelling, mem, spelled⟩ | single
  · obtain ⟨long, noU⟩ := second_of_mem_capitalSpellings _ mem
    have second := congrArg (fun chars => chars[1]?) h
    rw [spelled, List.getElem?_append_left (by rw [List.length_map]; exact long)] at second
    exact absurd second noU
  · rw [single, List.singleton_append, List.cons.injEq] at h
    rw [single, h.1]
    exact ⟨rfl, h.2⟩

/-- Three texts are capitalized to the name of the Sun. -/
theorem capitalized_eq_sun_iff (text : String) :
    capitalized text = "Sun" ↔ text = "sun" ∨ text = "Sun" ∨ text = "ſun" := by
  constructor
  · intro h
    unfold capitalized at h
    split at h
    · exact absurd h (by decide)
    rename_i first rest letters
    have whole : capital first ++ rest = ['S', 'u', 'n'] := by
      rw [← String.toList_ofList (l := capital first ++ rest), h]
      rfl
    obtain ⟨capital_S, rfl⟩ := capital_append_eq_sun whole
    have text_eq : text = String.ofList [first, 'u', 'n'] := by
      rw [← letters, String.ofList_toList]
    rcases (capital_eq_S_iff first).1 capital_S with rfl | rfl | rfl
    · exact .inl text_eq
    · exact .inr (.inl text_eq)
    · exact .inr (.inr text_eq)
  · rintro (rfl | rfl | rfl) <;> decide +kernel

end Periapsis.Text
