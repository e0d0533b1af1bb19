import Periapsis.Body

/-!
# Physical bodies

The numbers of a body that is physical are finite (`isFinite_of_offence?`):
every check asks for it, except that the components of a colour only have to be
between zero and one, which are finite themselves (`isFinite_of_le_of_le`).
-/

namespace Periapsis

/-- Between finite doubles all doubles are finite. -/
theorem isFinite_of_le_of_le {x a y : Float} (hx : x.isFinite = true) (hy : y.isFinite = true)
    (low : x ≤ a) (high : a ≤ y) : a.isFinite = true := by
  replace hx : x.toModel.unpack.isFinite = true := hx
  replace hy : y.toModel.unpack.isFinite = true := hy
  replace low : x.toModel.unpack.le a.toModel.unpack = true := of_decide_eq_true low
  replace high : a.toModel.unpack.le y.toModel.unpack = true := of_decide_eq_true high
  show a.toModel.unpack.isFinite = true
  generalize x.toModel.unpack = x at hx low
  generalize y.toModel.unpack = y at hy high
  generalize a.toModel.unpack = a at low high
  cases a with
  | notANumber => cases x <;> cases low
  | infinity sign =>
    cases sign with
    | positive =>
      cases y with
      | notANumber | infinity => cases hy
      | zero | finite => cases high
    | negative =>
      cases x with
      | notANumber | infinity => cases hx
      | zero | finite => cases low
  | zero | finite => rfl

namespace Body

theorem passes_of_offence? {α : Type} [Scalar α] {b : Body α} (h : b.offence? = none) :
    ∀ check ∈ b.checks, check.2.2 = true := by
  rw [offence?, Option.map_eq_none_iff, List.find?_eq_none] at h
  intro check hcheck
  simpa using h check hcheck

theorem isMagnitude_of_offence? {α : Type} [Scalar α] {b : Body α} (h : b.offence? = none) :
    isMagnitude b.mass = true ∧ isMagnitude b.periapsis = true ∧ isMagnitude b.speed = true := by
  have passes := passes_of_offence? h
  simp only [checks, List.forall_mem_append, List.forall_mem_cons] at passes
  obtain ⟨⟨⟨mass, periapsis, speed, -⟩, -⟩, -⟩ := passes
  exact ⟨mass, periapsis, speed⟩

theorem isFinite_of_isMagnitude {x : Float} (h : isMagnitude x = true) : x.isFinite = true :=
  (Bool.and_eq_true _ _ ▸ h).1

theorem isFinite_of_isShare {x : Float} (h : isShare x = true) : x.isFinite = true := by
  rw [isShare, Bool.and_eq_true, decide_eq_true_eq, decide_eq_true_eq] at h
  have ends : (0 : Float).isFinite = true ∧ (1 : Float).isFinite = true := by decide +kernel
  exact isFinite_of_le_of_le ends.1 ends.2 h.1 h.2

/-- No check lets a number pass that is not finite. -/
theorem isFinite_of_mem_checks (b : Body Float) :
    ∀ check ∈ b.checks, check.2.2 = true → check.2.1.isFinite = true := by
  simp only [checks, List.forall_mem_append, List.forall_mem_map, List.forall_mem_cons]
  refine ⟨⟨⟨isFinite_of_isMagnitude, isFinite_of_isMagnitude, isFinite_of_isMagnitude, id, id, id,
    nofun⟩, fun _ _ => isFinite_of_isMagnitude⟩, fun _ _ => isFinite_of_isShare⟩

/-- The numbers of a body that is physical are finite. -/
theorem isFinite_of_offence? {b : Body Float} (h : b.offence? = none) :
    ∀ check ∈ b.checks, check.2.1.isFinite = true :=
  fun check hcheck => isFinite_of_mem_checks b check hcheck (passes_of_offence? h check hcheck)

end Body

end Periapsis
