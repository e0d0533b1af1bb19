import Mathlib.Data.List.Forall2

/-!
# Chains of results

When a computation that may fail goes through: two steps (`bind_eq_ok_iff`), a
step for each item of a list (`mapM_eq_ok_iff`), and steps that hand a state on
(`foldlM_eq_ok_iff`, for steps of which a first part looks at the item only).
-/

namespace Periapsis

variable {ε β γ σ : Type}

theorem exists_of_isSome_toOption {x : Except ε β} (h : x.toOption.isSome = true) :
    ∃ v, x = .ok v := by
  cases x with
  | error e => simp [Except.toOption] at h
  | ok v => exact ⟨v, rfl⟩

theorem eq_ok_of_toOption {x : Except ε β} {v : β} (h : x.toOption = some v) : x = .ok v := by
  cases x with
  | error e => cases h
  | ok v' => exact congrArg Except.ok (Option.some.inj h)

theorem bind_eq_ok_iff (x : Except ε β) (f : β → Except ε γ) (v : γ) :
    (x >>= f) = .ok v ↔ ∃ b, x = .ok b ∧ f b = .ok v := by
  cases x with
  | error e => exact ⟨nofun, fun ⟨_, h, _⟩ => nomatch h⟩
  | ok b => exact ⟨fun h => ⟨b, rfl, h⟩, fun ⟨_, h, hv⟩ => by cases h; exact hv⟩

theorem mapM_eq_ok_iff (f : β → Except ε γ) (items : List β) (values : List γ) :
    items.mapM f = .ok values ↔ List.Forall₂ (fun item value => f item = .ok value) items values := by
  induction items generalizing values with
  | nil =>
    rw [List.mapM_nil, List.forall₂_nil_left_iff]
    exact ⟨fun h => by cases h; rfl, fun h => by rw [h]; rfl⟩
  | cons item items ih =>
    rw [List.mapM_cons, bind_eq_ok_iff, List.forall₂_cons_left_iff]
    refine exists_congr fun value => ?_
    rw [bind_eq_ok_iff]
    constructor
    · rintro ⟨hv, rest, hr, h⟩
      cases h
      exact ⟨rest, hv, (ih rest).1 hr, rfl⟩
    · rintro ⟨rest, hv, hr, rfl⟩
      exact ⟨hv, rest, (ih rest).2 hr, rfl⟩

/-- Where a list of steps fails, one of them does. -/
theorem exists_of_mapM_eq_error {f : β → Except ε γ} {items : List β} {e : ε}
    (h : items.mapM f = .error e) : ∃ item ∈ items, f item = .error e := by
  induction items with
  | nil => cases h
  | cons item items ih =>
    rw [List.mapM_cons] at h
    cases first : f item with
    | error e' =>
      rw [first] at h
      cases h
      exact ⟨item, List.mem_cons_self, first⟩
    | ok value =>
      rw [first] at h
      cases rest : items.mapM f with
      | error e' =>
        rw [rest] at h
        cases h
        obtain ⟨later, mem, fails⟩ := ih rest
        exact ⟨later, List.mem_cons_of_mem item mem, fails⟩
      | ok values =>
        rw [rest] at h
        cases h

theorem exists_of_mem_of_forall₂ {R : β → γ → Prop} {items : List β} {values : List γ}
    (h : List.Forall₂ R items values) {value : γ} (mem : value ∈ values) :
    ∃ item ∈ items, R item value := by
  induction h with
  | nil => cases mem
  | @cons item first items values related _ ih =>
    rcases List.mem_cons.1 mem with rfl | mem
    · exact ⟨item, List.mem_cons_self, related⟩
    · obtain ⟨item, later, related⟩ := ih mem
      exact ⟨item, List.mem_cons_of_mem _ later, related⟩

/-- Steps that first look at their item and then go on from the state: when
all items look right, only the going on is left. -/
theorem foldlM_eq_of_forall₂ {look : β → Except ε γ} {items : List β} {values : List γ}
    (next : σ → γ → Except ε σ) (s : σ)
    (h : List.Forall₂ (fun item value => look item = .ok value) items values) :
    items.foldlM (fun s item => look item >>= next s) s = values.foldlM next s := by
  induction h generalizing s with
  | nil => rfl
  | cons hv _ ih =>
    rw [List.foldlM_cons, List.foldlM_cons, hv]
    exact bind_congr fun s => ih s

/-- Such steps go through exactly when all items look right and the states follow. -/
theorem foldlM_eq_ok_iff (look : β → Except ε γ) (next : σ → γ → Except ε σ) (items : List β)
    (s s' : σ) :
    items.foldlM (fun s item => look item >>= next s) s = .ok s' ↔
      ∃ values, List.Forall₂ (fun item value => look item = .ok value) items values ∧
        values.foldlM next s = .ok s' := by
  refine ⟨fun h => ?_, fun ⟨_, looked, h⟩ => (foldlM_eq_of_forall₂ next s looked).trans h⟩
  induction items generalizing s with
  | nil => exact ⟨[], .nil, h⟩
  | cons item items ih =>
    simp only [List.foldlM_cons, bind_eq_ok_iff] at h
    obtain ⟨s₁, ⟨value, hv, hs⟩, hr⟩ := h
    obtain ⟨values, looked, hr⟩ := ih s₁ hr
    exact ⟨value :: values, .cons hv looked, by rw [List.foldlM_cons, hs]; exact hr⟩

end Periapsis
