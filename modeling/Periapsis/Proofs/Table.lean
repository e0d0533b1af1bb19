import Periapsis.Orbit
import Periapsis.SolarSystem

/-!
# Tables that can be built

What every table holds however it was built (`Table.Sound`): ids that differ
from each other and from the Sun's, and physical bodies.

* `insert_eq_ok_iff`: an insertion goes through exactly when the table accepts
  the entry, which is then its last;
* `insertAll_eq_ok_iff`, `ofEntries_eq_ok_iff`: entries go through exactly when
  the table that they make is sound, and make no other.
-/

namespace Periapsis

variable {α : Type}

/-! ## Ids and bodies -/

/-- Texts that are the same up to the case of ASCII letters. -/
def SameLetters (s t : String) : Prop :=
  s.toList.map Char.toLower = t.toList.map Char.toLower

theorem isSunId_eq_true_iff (id : String) : isSunId id = true ↔ SameLetters id sunId := by
  have lower : sunId.toList.map Char.toLower = sunId.toList := by decide
  rw [isSunId, SameLetters, beq_iff_eq, lower]

theorem isSunId_eq_false_iff (id : String) : isSunId id = false ↔ ¬ SameLetters id sunId := by
  rw [← isSunId_eq_true_iff, Bool.not_eq_true]

theorem Table.get?_eq_none_iff (t : Table α) (id : String) : t.get? id = none ↔ id ∉ t.ids := by
  simp only [get?, ids, List.lookup_eq_none_iff, List.mem_map, not_exists, not_and, bne_iff_ne]
  exact ⟨fun h e he heq => h e he heq.symm, fun h e he heq => h e he heq.symm⟩

variable [Scalar α]

theorem Body.checked_eq_ok_iff {β : Type} (b : Body α) (id : String) (value v : β) :
    b.checked id value = .ok v ↔ b.offence? = none ∧ value = v := by
  unfold Body.checked
  split <;> rename_i h <;> simp [h]

theorem Body.checked_eq_error_iff {β : Type} (b : Body α) (id : String) (value : β)
    (failure : Failure α) : b.checked id value = .error failure ↔
      ∃ field offending, b.offence? = some (field, offending) ∧
        failure = .invalidField id field offending := by
  unfold Body.checked
  split
  · rename_i field offending h
    rw [h, Except.error.injEq]
    constructor
    · rintro rfl
      exact ⟨field, offending, rfl, rfl⟩
    · rintro ⟨_, _, same, rfl⟩
      cases same
      rfl
  · rename_i h
    simp [h]

namespace Table

/-! ## Insertions -/

/-- What a table asks of a further entry. -/
structure Accepts (t : Table α) (id : String) (body : Body α) : Prop where
  notSun : isSunId id = false
  fresh : id ∉ t.ids
  physical : body.offence? = none

theorem insert_eq_ok_iff (t t' : Table α) (id : String) (body : Body α) :
    t.insert id body = .ok t' ↔ t.Accepts id body ∧ t' = ⟨t.entries ++ [(id, body)]⟩ := by
  unfold insert
  split
  · rename_i sun
    exact ⟨nofun, fun h => by rw [h.1.notSun] at sun; cases sun⟩
  rename_i notSun
  split
  · rename_i taken
    exact ⟨nofun, fun h => by rw [(get?_eq_none_iff t id).2 h.1.fresh] at taken; cases taken⟩
  rename_i fresh
  split
  · rename_i offends
    exact ⟨nofun, fun h => by rw [h.1.physical] at offends; cases offends⟩
  rename_i physical
  have accepts : t.Accepts id body :=
    ⟨by simpa using notSun, (get?_eq_none_iff t id).1 (by simpa using fresh), physical⟩
  simp only [Except.ok.injEq, accepts, true_and, eq_comm]

/-! ## Sound tables -/

/-- What holds of a table however it was built. -/
structure Sound (t : Table α) : Prop where
  distinct : t.ids.Nodup
  noSun : ∀ id ∈ t.ids, isSunId id = false
  physical : ∀ entry ∈ t.entries, entry.2.offence? = none

theorem sound_iff (t : Table α) :
    t.Sound ↔ t.ids.Nodup ∧ (∀ id ∈ t.ids, isSunId id = false) ∧
      ∀ entry ∈ t.entries, entry.2.offence? = none :=
  ⟨fun h => ⟨h.distinct, h.noSun, h.physical⟩, fun ⟨d, s, p⟩ => ⟨d, s, p⟩⟩

instance (t : Table α) : Decidable t.Sound :=
  decidable_of_iff _ (sound_iff t).symm

theorem sound_empty : (empty : Table α).Sound :=
  ⟨.nil, nofun, nofun⟩

/-- One entry more keeps a table sound exactly when the table accepts it. -/
theorem sound_concat_iff (entries : List (String × Body α)) (id : String) (body : Body α) :
    Sound ⟨entries ++ [(id, body)]⟩ ↔ Sound ⟨entries⟩ ∧ Accepts ⟨entries⟩ id body := by
  have ids_concat : ids (⟨entries ++ [(id, body)]⟩ : Table α) = ids ⟨entries⟩ ++ [id] := by
    simp [ids]
  constructor
  · intro h
    have distinct := h.distinct
    rw [ids_concat, List.nodup_append] at distinct
    have noSun := h.noSun
    rw [ids_concat, List.forall_mem_append] at noSun
    have physical := h.physical
    rw [List.forall_mem_append] at physical
    exact ⟨⟨distinct.1, noSun.1, physical.1⟩, noSun.2 id List.mem_cons_self,
      fun hi => distinct.2.2 id hi id List.mem_cons_self rfl, physical.2 (id, body) List.mem_cons_self⟩
  · rintro ⟨h, accepts⟩
    refine ⟨?_, ?_, ?_⟩
    · rw [ids_concat, List.nodup_append]
      refine ⟨h.distinct, by simp, fun i hi j hj => ?_⟩
      rw [List.mem_singleton.1 hj]
      exact fun e => accepts.fresh (e ▸ hi)
    · rw [ids_concat, List.forall_mem_append, List.forall_mem_singleton]
      exact ⟨h.noSun, accepts.notSun⟩
    · rw [List.forall_mem_append, List.forall_mem_singleton]
      exact ⟨h.physical, accepts.physical⟩

/-- The entries in front of others are sound by themselves. -/
theorem Sound.of_append {entries more : List (String × Body α)}
    (h : Sound (⟨entries ++ more⟩ : Table α)) : Sound (⟨entries⟩ : Table α) := by
  have distinct := h.distinct
  have noSun := h.noSun
  simp only [ids, List.map_append, List.nodup_append, List.forall_mem_append] at distinct noSun
  exact ⟨distinct.1, noSun.1, (List.forall_mem_append.1 h.physical).1⟩

theorem Sound.insert {t t' : Table α} {id : String} {body : Body α} (h : t.Sound)
    (hi : t.insert id body = .ok t') : t'.Sound := by
  obtain ⟨accepts, rfl⟩ := (insert_eq_ok_iff ..).1 hi
  exact (sound_concat_iff ..).2 ⟨h, accepts⟩

/-- Entries go through exactly when the table that they make is sound. -/
theorem insertAll_eq_ok_iff {t : Table α} (h : t.Sound) (entries : List (String × Body α))
    (t' : Table α) :
    t.insertAll entries = .ok t' ↔ t'.Sound ∧ t' = ⟨t.entries ++ entries⟩ := by
  induction entries generalizing t with
  | nil =>
    rw [List.append_nil]
    exact ⟨fun e => by cases e; exact ⟨h, rfl⟩, fun e => by rw [e.2]; rfl⟩
  | cons entry entries ih =>
    obtain ⟨id, body⟩ := entry
    show (t.insert id body >>= fun t => t.insertAll entries) = .ok t' ↔ _
    rw [List.append_cons]
    cases hi : t.insert id body with
    | ok next =>
      obtain rfl := ((insert_eq_ok_iff ..).1 hi).2
      exact ih (h.insert hi)
    | error f =>
      refine ⟨nofun, fun ⟨sound, e⟩ => ?_⟩
      have accepts := ((sound_concat_iff ..).1 (e ▸ sound).of_append).2
      rw [(insert_eq_ok_iff ..).2 ⟨accepts, rfl⟩] at hi
      cases hi

theorem ofEntries_eq_ok_iff (entries : List (String × Body α)) (t : Table α) :
    ofEntries entries = .ok t ↔ t.Sound ∧ t = ⟨entries⟩ :=
  insertAll_eq_ok_iff sound_empty entries t

/-- The table of the planets is what its entries make. -/
theorem ofEntries_planets : ofEntries planets = .ok (solarSystem : Table Float) :=
  (ofEntries_eq_ok_iff ..).2 ⟨by decide +kernel, rfl⟩

end Table

/-- The mass of the Sun is one that a Sun can have. -/
theorem Sun.mass_valid : (Sun.mass : Float).isFinite = true ∧ ¬ (Sun.mass : Float) ≤ 0 := by
  decide +kernel

end Periapsis
