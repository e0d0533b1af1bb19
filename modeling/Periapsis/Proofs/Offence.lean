import Periapsis.Proofs.Double.Order
import Periapsis.Proofs.Table

/-!
# Offences

Which doubles the fields of a body allow (`Field.Allows`), and what is found to be
at fault with a body: the first value that its field does not allow, in the order
of the fields and in a colour in the order of its components.

* `offence?_eq_none_iff`, `offence?_eq_some_iff`: what is found, and when nothing
  is;
* `checked_by_fields`: so a body goes through exactly when every field allows what
  is in it, and otherwise fails under its id with the first offence.
-/

namespace Periapsis

/-! ## Allowed values -/

/-- Masses, lengths and speeds are finite and at least zero, angles are finite, and
the components of a colour are from zero to one. -/
def Field.Allows : Field → Float → Prop
  | mass, a | periapsis, a | speed, a | radius, a => a.isFinite = true ∧ 0 ≤ a
  | argument, a | inclination, a | ascendingNode, a => a.isFinite = true
  | color, a => 0 ≤ a ∧ a ≤ 1

instance (field : Field) : DecidablePred field.Allows := fun a =>
  match field with
  | .mass | .periapsis | .speed | .radius =>
    inferInstanceAs (Decidable (a.isFinite = true ∧ 0 ≤ a))
  | .argument | .inclination | .ascendingNode => inferInstanceAs (Decidable (a.isFinite = true))
  | .color => inferInstanceAs (Decidable (0 ≤ a ∧ a ≤ 1))

/-- The fields in the order in which they are checked. -/
def Field.all : List Field :=
  [mass, periapsis, speed, argument, inclination, ascendingNode, radius, color]

theorem Field.mem_all (field : Field) : field ∈ all := by
  cases field <;> decide

namespace Body

/-- What a body holds in a field: nothing that is left out, and a colour by its
components. -/
def values (b : Body Float) : Field → List Float
  | .mass => [b.mass]
  | .periapsis => [b.periapsis]
  | .speed => [b.speed]
  | .argument => [b.orientation.argument]
  | .inclination => [b.orientation.inclination]
  | .ascendingNode => [b.orientation.ascendingNode]
  | .radius => b.radius.toList
  | .color => b.color.toList.flatMap fun color => [color.red, color.green, color.blue]

/-- Every field allows what the body holds in it. -/
def Allowed (b : Body Float) : Prop :=
  ∀ field, ∀ a ∈ b.values field, field.Allows a

/-- A value that its field does not allow, behind allowed values of the field and
behind fields with allowed values only. -/
structure OffendsFirst (b : Body Float) (field : Field) (value : Float) : Prop where
  fields : ∃ passed rest, Field.all = passed ++ field :: rest ∧
    ∀ other ∈ passed, ∀ a ∈ b.values other, other.Allows a
  values : ∃ passed rest, b.values field = passed ++ value :: rest ∧
    ∀ a ∈ passed, field.Allows a
  notAllowed : ¬ field.Allows value

/-! ## The first offence -/

theorem isMagnitude_iff (a : Float) : isMagnitude a = true ↔ a.isFinite = true ∧ 0 ≤ a := by
  rw [isMagnitude, Bool.and_eq_true, Bool.not_eq_true', decide_eq_false_iff_not]
  exact and_congr_right Double.not_lt_zero_iff

theorem isMagnitude_eq (a : Float) : isMagnitude a = decide (a.isFinite = true ∧ 0 ≤ a) :=
  Bool.eq_iff_iff.2 ((isMagnitude_iff a).trans decide_eq_true_iff.symm)

theorem isShare_eq (a : Float) : isShare a = decide (0 ≤ a ∧ a ≤ 1) :=
  (Bool.decide_and ..).symm

/-- The checks of a body are those of its fields in their order. -/
theorem checks_eq (b : Body Float) : b.checks = Field.all.flatMap fun field =>
    (b.values field).map fun a => (field, a, decide (field.Allows a)) := by
  have finite (a : Float) : Scalar.isFinite a = decide (a.isFinite = true) :=
    (Bool.decide_eq_true ..).symm
  simp only [checks, isMagnitude_eq, isShare_eq, finite, Field.all, List.flatMap_cons,
    List.flatMap_nil, List.append_nil, List.append_assoc]
  rfl

/-- The first value in a field that the field does not allow. -/
def offending? (b : Body Float) (field : Field) : Option Float :=
  (b.values field).find? fun a => !decide (field.Allows a)

theorem offending?_eq_none_iff (b : Body Float) (field : Field) :
    b.offending? field = none ↔ ∀ a ∈ b.values field, field.Allows a := by
  simp only [offending?, List.find?_eq_none, Bool.not_eq_true', decide_eq_false_iff_not, not_not]

theorem offending?_eq_some_iff (b : Body Float) (field : Field) (value : Float) :
    b.offending? field = some value ↔ ¬ field.Allows value ∧ ∃ passed rest,
      b.values field = passed ++ value :: rest ∧ ∀ a ∈ passed, field.Allows a := by
  simp only [offending?, List.find?_eq_some_iff_append, Bool.not_eq_true', decide_eq_false_iff_not,
    Bool.not_not, decide_eq_true_eq]

theorem offence?_eq_findSome? (b : Body Float) :
    b.offence? = Field.all.findSome? fun field =>
      (b.offending? field).map fun a => (field, a) := by
  rw [offence?, checks_eq, List.find?_flatMap, List.map_findSome?]
  congr 1
  funext field
  rw [Function.comp_apply, List.find?_map, Option.map_map]
  rfl

theorem offence?_eq_none_iff (b : Body Float) : b.offence? = none ↔ b.Allowed := by
  simp only [offence?_eq_findSome?, List.findSome?_eq_none_iff, Option.map_eq_none_iff,
    offending?_eq_none_iff]
  exact ⟨fun h field => h field field.mem_all, fun h field _ => h field⟩

theorem offence?_eq_some_iff (b : Body Float) (field : Field) (value : Float) :
    b.offence? = some (field, value) ↔ b.OffendsFirst field value := by
  rw [offence?_eq_findSome?, List.findSome?_eq_some_iff]
  simp only [Option.map_eq_none_iff, offending?_eq_none_iff]
  constructor
  · rintro ⟨passed, found, rest, all, offends, allowed⟩
    obtain ⟨a, first, same⟩ := Option.map_eq_some_iff.1 offends
    cases same
    obtain ⟨notAllowed, values⟩ := (offending?_eq_some_iff ..).1 first
    exact ⟨⟨passed, rest, all, allowed⟩, values, notAllowed⟩
  · rintro ⟨⟨passed, rest, all, allowed⟩, values, notAllowed⟩
    have first := (offending?_eq_some_iff ..).2 ⟨notAllowed, values⟩
    exact ⟨passed, field, rest, all, Option.map_eq_some_iff.2 ⟨value, first, rfl⟩, allowed⟩

/-- A body goes through exactly when every field allows what is in it. Otherwise it
fails under its id, with the first field that does not and the first value of that
field that is not allowed. -/
theorem checked_by_fields (b : Body Float) (id : String) {β : Type} (value : β) :
    (b.checked id value = .ok value ↔ b.Allowed) ∧
      (¬ b.Allowed ↔ ∃ field offending, b.OffendsFirst field offending) ∧
      ∀ failure, b.checked id value = .error failure ↔
        ∃ field offending, b.OffendsFirst field offending ∧
          failure = .invalidField id field offending := by
  refine ⟨?_, ?_, fun failure => ?_⟩
  · rw [checked_eq_ok_iff, offence?_eq_none_iff, and_iff_left rfl]
  · simp only [← offence?_eq_none_iff, ← offence?_eq_some_iff, Option.ne_none_iff_exists',
      Prod.exists]
  · simp only [checked_eq_error_iff, offence?_eq_some_iff]

end Body

end Periapsis
