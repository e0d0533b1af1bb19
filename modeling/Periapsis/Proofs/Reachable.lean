import Periapsis.Proofs.TableFile.Rows

/-!
# Tables that can be reached

The tables that a program can come to hold (`Reachable`): by insertions, with
failed ones in between, from lists of entries, and from files. All of them are
sound (`Reachable.sound`), because nothing else than an insertion that goes
through ever adds to a table.
-/

namespace Periapsis

/-- The table after an attempt to insert a body. A failure changes nothing. -/
def Table.attempt {α : Type} [Scalar α] (t : Table α) (id : String) (body : Body α) : Table α :=
  match t.insert id body with
  | .ok t' => t'
  | .error _ => t

theorem Table.Sound.attempt {α : Type} [Scalar α] {t : Table α} (h : t.Sound) (id : String)
    (body : Body α) : (t.attempt id body).Sound := by
  unfold Table.attempt
  split
  · rename_i inserted; exact h.insert inserted
  · exact h

inductive Reachable : Table Float → Prop where
  | empty : Reachable .empty
  | ofEntries {entries : List (String × Body Float)} {t : Table Float} :
    Table.ofEntries entries = .ok t → Reachable t
  | read {bytes : List UInt8} {t : Table Float} : TableFile.read bytes = .ok t → Reachable t
  | attempt {t : Table Float} (id : String) (body : Body Float) :
    Reachable t → Reachable (t.attempt id body)

theorem Reachable.sound {t : Table Float} (h : Reachable t) : t.Sound := by
  induction h with
  | empty => exact Table.sound_empty
  | ofEntries made => exact ((Table.ofEntries_eq_ok_iff ..).1 made).1
  | read loaded => exact TableFile.sound_of_read loaded
  | attempt id body _ ih => exact ih.attempt id body

theorem reachable_solarSystem : Reachable solarSystem :=
  .ofEntries Table.ofEntries_planets

/-- The ids of a table that can be reached differ from each other and from the
Sun's, and every body passes its check under its own id. -/
theorem reachable_distinct_physical {t : Table Float} (h : Reachable t) :
    t.ids.Nodup ∧ (∀ id ∈ t.ids, ¬ SameLetters id sunId) ∧
      ∀ entry ∈ t.entries, entry.2.checked entry.1 () = .ok () :=
  ⟨h.sound.distinct, fun id hi => (isSunId_eq_false_iff id).1 (h.sound.noSun id hi),
    fun entry he => (Body.checked_eq_ok_iff ..).2 ⟨h.sound.physical entry he, rfl⟩⟩

/-- The planets after a second Earth, a Sun in capitals and a body at rest were
tried on them. -/
theorem planets_attempts_distinct_physical :
    let rest : Body Float := ⟨0, 0, 0, ⟨0, 0, 0⟩, none, none⟩
    let t := ((solarSystem.attempt "earth" rest).attempt "SUN" rest).attempt "rest" rest
    Reachable t ∧ t.ids.Nodup ∧ (∀ id ∈ t.ids, ¬ SameLetters id sunId) ∧
      ∀ entry ∈ t.entries, entry.2.checked entry.1 () = .ok () :=
  have h := ((reachable_solarSystem.attempt "earth" _).attempt "SUN" _).attempt "rest" _
  ⟨h, reachable_distinct_physical h⟩

end Periapsis
