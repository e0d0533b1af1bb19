import Periapsis.Proofs.Exact

/-!
# Bodies in another order

A table with its entries in another order. It is sound as well, since nothing
that is asked of a table looks at the order (`Table.sound_perm_iff`), and it is
solved with the same placed bodies in another order (`exists_solve_perm`). They
are found by their ids, which differ, so that on any numbers an id leads to the
same state (`Solution.body?_eq_of_perm`).

A sum of rounded numbers may depend on the order of its terms, an exact one does
not. In exact arithmetic, therefore, the solutions differ in nothing but the
order of their bodies (`Solution.Permuted`), and a scenario does not keep that.
-/

namespace Periapsis

variable {α : Type}

/-- Steps that go through for a list go through for it in another order, with
the same values in another order. -/
theorem exists_mapM_of_perm {ε β γ : Type} {f : β → Except ε γ} {items others : List β}
    (h : items.Perm others) {values : List γ} (made : items.mapM f = .ok values) :
    ∃ values', others.mapM f = .ok values' ∧ values.Perm values' := by
  obtain ⟨values', made', perm⟩ := List.perm_comp_forall₂ h.symm ((mapM_eq_ok_iff ..).1 made)
  exact ⟨values', (mapM_eq_ok_iff ..).2 made', perm.symm⟩

/-! ## Bodies by their ids -/

namespace Solution

/-- Under ids that differ, an id leads to the body that has it. -/
theorem body?_eq_some_iff {s : Solution α} (distinct : (s.bodies.map Placed.id).Nodup)
    (id : String) (b : Placed α) : s.body? id = some b ↔ b ∈ s.bodies ∧ b.id = id := by
  have found_id {b : Placed α} (h : s.body? id = some b) : b.id = id :=
    beq_iff_eq.1 (List.find?_some (p := fun b : Placed α => b.id == id) h)
  constructor
  · intro h
    exact ⟨List.mem_of_find?_eq_some h, found_id h⟩
  · rintro ⟨mem, same⟩
    have there : (s.body? id).isSome = true :=
      List.find?_isSome.2 ⟨b, mem, beq_iff_eq.2 same⟩
    obtain ⟨first, found⟩ := Option.isSome_iff_exists.1 there
    have mem' := List.mem_of_find?_eq_some found
    rw [found, List.inj_on_of_nodup_map distinct mem' mem ((found_id found).trans same.symm)]

theorem body?_eq_of_perm {s s' : Solution α} (h : s.bodies.Perm s'.bodies)
    (distinct : (s.bodies.map Placed.id).Nodup) (id : String) : s.body? id = s'.body? id := by
  have distinct' : (s'.bodies.map Placed.id).Nodup := (h.map Placed.id).nodup distinct
  refine Option.ext fun b => ?_
  rw [body?_eq_some_iff distinct, body?_eq_some_iff distinct', h.mem_iff]

end Solution

variable [Scalar α]

/-! ## Tables -/

namespace Table

theorem Sound.perm {entries others : List (String × Body α)} (h : entries.Perm others)
    (sound : Sound (⟨entries⟩ : Table α)) : Sound (⟨others⟩ : Table α) := by
  have ids : (entries.map Prod.fst).Perm (others.map Prod.fst) := h.map Prod.fst
  refine ⟨ids.nodup sound.distinct, fun id mem => ?_, fun entry mem => ?_⟩
  · exact sound.noSun id (ids.mem_iff.2 mem)
  · exact sound.physical entry (h.mem_iff.2 mem)

theorem sound_perm_iff {entries others : List (String × Body α)} (h : entries.Perm others) :
    Sound (⟨entries⟩ : Table α) ↔ Sound (⟨others⟩ : Table α) :=
  ⟨Sound.perm h, Sound.perm h.symm⟩

/-- Entries are accepted in one order exactly when they are in another. -/
theorem exists_ofEntries_perm_iff {entries others : List (String × Body α)}
    (h : entries.Perm others) :
    (∃ t, ofEntries entries = .ok t) ↔ ∃ t, ofEntries others = .ok t := by
  simp only [ofEntries_eq_ok_iff, exists_eq_right]
  exact sound_perm_iff h

theorem exists_place_of_perm {t t' : Table α} (h : t.entries.Perm t'.entries)
    {bodies : List (Placed α)} (placed : t.place = .ok bodies) :
    ∃ bodies', t'.place = .ok bodies' ∧ bodies.Perm bodies' :=
  exists_mapM_of_perm h placed

end Table

/-- A table in another order is solved with the same placed bodies. -/
theorem exists_solve_of_perm {t t' : Table α} (h : t.entries.Perm t'.entries) {sunMass : α}
    {s : Solution α} (solved : t.solve sunMass = .ok s) :
    ∃ s', t'.solve sunMass = .ok s' ∧ s.bodies.Perm s'.bodies := by
  obtain ⟨placed, -, -, compensated⟩ := (solve_eq_ok_iff ..).1 solved
  obtain ⟨valid, -⟩ := (compensation_eq_ok_iff ..).1 compensated
  obtain ⟨bodies, placed', perm⟩ := Table.exists_place_of_perm h placed
  have compensated' := (compensation_eq_ok_iff (momentum bodies) _ sunMass).2 ⟨valid, rfl⟩
  refine ⟨⟨bodies, momentum bodies, sunMass, -momentum bodies / sunMass⟩, ?_, perm⟩
  exact (solve_eq_ok_iff ..).2 ⟨placed', rfl, rfl, compensated'⟩

/-! ## Exact arithmetic -/

section Exact

variable {f : Circular}

theorem momentum_eq_of_perm {bodies others : List (Placed (Exact f))} (h : bodies.Perm others) :
    momentum bodies = momentum others :=
  Vec3.foldl_add_perm _ h 0

theorem Table.momentum_eq_of_perm {t t' : Table (Exact f)} (h : t.entries.Perm t'.entries)
    (sound : t.Sound) : ∃ p, t.momentum = .ok p ∧ t'.momentum = .ok p := by
  obtain ⟨bodies, placed⟩ := exists_place sound.physical
  obtain ⟨bodies', placed', perm⟩ := exists_place_of_perm h placed
  refine ⟨Periapsis.momentum bodies, ?_, ?_⟩
  · rw [Table.momentum, placed]
    rfl
  · rw [Table.momentum, placed', Periapsis.momentum_eq_of_perm perm]
    rfl

/-- Solutions that differ in nothing but the order of their bodies. -/
structure Solution.Permuted {α : Type} (s s' : Solution α) : Prop where
  bodies : s.bodies.Perm s'.bodies
  momentum : s.momentum = s'.momentum
  sunMass : s.sunMass = s'.sunMass
  sunVelocity : s.sunVelocity = s'.sunVelocity

theorem permuted_of_solve {t t' : Table (Exact f)} (h : t.entries.Perm t'.entries)
    {sunMass : Exact f} {s s' : Solution (Exact f)} (solved : t.solve sunMass = .ok s)
    (solved' : t'.solve sunMass = .ok s') : s.Permuted s' := by
  have perm : s.bodies.Perm s'.bodies := by
    obtain ⟨_, again, perm⟩ := exists_solve_of_perm h solved
    rw [solved'] at again
    exact Except.ok.inj again ▸ perm
  obtain ⟨-, sum, mass, compensated⟩ := (solve_eq_ok_iff ..).1 solved
  obtain ⟨-, sum', mass', compensated'⟩ := (solve_eq_ok_iff ..).1 solved'
  have same : s.momentum = s'.momentum := by rw [sum, sum', momentum_eq_of_perm perm]
  rw [same, compensated'] at compensated
  exact ⟨perm, same, mass.trans mass'.symm, (Except.ok.inj compensated).symm⟩

theorem Solution.Permuted.residual {s s' : Solution α} (h : s.Permuted s') :
    s.residual = s'.residual := by
  rw [Solution.residual, Solution.residual, h.momentum, h.sunVelocity, h.sunMass]

/-- A scenario keeps its bodies in an order of its own. -/
theorem Scenario.ofSolution_eq_of_permuted {t t' : Table α} (sound : t.Sound) (sound' : t'.Sound)
    {sunMass : α} {s s' : Solution α} (solved : t.solve sunMass = .ok s)
    (solved' : t'.solve sunMass = .ok s') (h : s.Permuted s') (timeStep : Int) :
    ofSolution s timeStep = ofSolution s' timeStep := by
  have sameSun : sun s = sun s' := by
    rw [sun, sun, Solution.sunState, Solution.sunState, h.sunMass, h.sunVelocity]
  have entries := (h.bodies.map fun b => (b.id, actor b)).cons (sunId, sun s)
  have roster : Roster.ofList ((sunId, sun s) :: s.bodies.map fun b => (b.id, actor b)) =
      .ofList ((sunId, sun s') :: s'.bodies.map fun b => (b.id, actor b)) := by
    refine Roster.eq_of_perm ?_
    refine (Roster.perm_ofList (nodup_keys sound solved)).trans (.trans ?_
      (Roster.perm_ofList (nodup_keys sound' solved')).symm)
    exact sameSun ▸ entries
  rw [ofSolution, ofSolution, roster]

end Exact

/-- Entries in another order are accepted or not as they were. On any numbers,
every id then has the same state in both solutions, for every mass of the Sun
that is finite and above zero; in exact arithmetic, the momentum, the velocity
of the Sun, what it leaves over and all of the scenario are the same. -/
theorem solve_of_permuted_entries :
    (∀ {α : Type} [Scalar α] {entries others : List (String × Body α)}, entries.Perm others →
      ((∃ t, Table.ofEntries entries = .ok t) ↔ ∃ t, Table.ofEntries others = .ok t) ∧
      ∀ t t', Table.ofEntries entries = .ok t → Table.ofEntries others = .ok t' →
        ∀ sunMass : α, Scalar.isFinite sunMass = true ∧ ¬ sunMass ≤ 0 →
          ∃ s s', t.solve sunMass = .ok s ∧ t'.solve sunMass = .ok s' ∧
            ∀ id, s.body? id = s'.body? id ∧ ((s.body? id).isSome = true ↔ id ∈ t.ids)) ∧
    ∀ {f : Circular} {entries others : List (String × Body (Exact f))}, entries.Perm others →
      ∀ t t', Table.ofEntries entries = .ok t → Table.ofEntries others = .ok t' →
        (∃ p, t.momentum = .ok p ∧ t'.momentum = .ok p) ∧
        ∀ sunMass s s', t.solve sunMass = .ok s → t'.solve sunMass = .ok s' →
          s.sunVelocity = s'.sunVelocity ∧ s.residual = s'.residual ∧
            ∀ timeStep, Scenario.ofSolution s timeStep = Scenario.ofSolution s' timeStep := by
  constructor
  · intro α _ entries others perm
    refine ⟨Table.exists_ofEntries_perm_iff perm, fun t t' made made' sunMass valid => ?_⟩
    obtain ⟨sound, rfl⟩ := (Table.ofEntries_eq_ok_iff ..).1 made
    obtain ⟨-, rfl⟩ := (Table.ofEntries_eq_ok_iff ..).1 made'
    obtain ⟨s, solved⟩ := exists_solve sound valid
    obtain ⟨s', solved', bodies⟩ := exists_solve_of_perm perm solved
    have ids := Scenario.map_id_of_solve solved
    refine ⟨s, s', solved, solved', fun id => ⟨?_, ?_⟩⟩
    · exact Solution.body?_eq_of_perm bodies (ids ▸ sound.distinct) id
    · rw [Solution.body?, List.find?_isSome, ← ids, List.mem_map]
      simp only [beq_iff_eq]
  · intro f entries others perm t t' made made'
    obtain ⟨sound, rfl⟩ := (Table.ofEntries_eq_ok_iff ..).1 made
    obtain ⟨sound', rfl⟩ := (Table.ofEntries_eq_ok_iff ..).1 made'
    refine ⟨Table.momentum_eq_of_perm perm sound, fun sunMass s s' solved solved' => ?_⟩
    have permuted := permuted_of_solve perm solved solved'
    exact ⟨permuted.sunVelocity, permuted.residual,
      Scenario.ofSolution_eq_of_permuted sound sound' solved solved' permuted⟩

/-- The Earth under two names. -/
def earths {α : Type} [Scalar α] : Table α :=
  ⟨loneEarth.entries ++ loneEarth.entries.map fun entry => ("twin", entry.2)⟩

theorem sound_earths {f : Circular} : (earths : Table (Exact f)).Sound := by
  have ids : (earths : Table (Exact f)).ids = ["earth", "twin"] := rfl
  have physical : ∀ entry ∈ (loneEarth : Table (Exact f)).entries, entry.2.offence? = none :=
    sound_loneEarth.physical
  refine ⟨by rw [ids]; decide, by rw [ids]; decide, ?_⟩
  rw [earths, List.forall_mem_append, List.forall_mem_map]
  exact ⟨physical, physical⟩

/-- The planets from the last to the first, on doubles, and the Earth and its
twin under the sine and cosine of the real numbers. -/
theorem solve_of_reversed_entries :
    let f : Circular := ⟨Real.sin, Real.cos⟩
    let reversed : Table (Exact f) := ⟨earths.entries.reverse⟩
    (∃ t s s', Table.ofEntries (planets.reverse) = .ok (t : Table Float) ∧
      solarSystem.solve Sun.mass = .ok s ∧ t.solve Sun.mass = .ok s' ∧
        ∀ id, s.body? id = s'.body? id) ∧
      ∃ s s', earths.solve (Sun.mass : Exact f) = .ok s ∧ reversed.solve Sun.mass = .ok s' ∧
        s.sunVelocity = s'.sunVelocity ∧ s.residual = s'.residual ∧
          ∀ timeStep, Scenario.ofSolution s timeStep = Scenario.ofSolution s' timeStep := by
  intro f reversed
  constructor
  · obtain ⟨accepted, solved⟩ :=
      solve_of_permuted_entries.1 (List.reverse_perm (planets : List (String × Body Float))).symm
    obtain ⟨t, made⟩ := accepted.1 ⟨_, Table.ofEntries_planets⟩
    obtain ⟨s, s', first, second, same⟩ := solved _ t Table.ofEntries_planets made _ Sun.mass_valid
    exact ⟨t, s, s', made, first, second, fun id => (same id).1⟩
  · have positive : (0 : ℝ) < 1988500e24 := by norm_num
    have valid : Scalar.isFinite (Sun.mass : Exact f) = true ∧ ¬ (Sun.mass : Exact f) ≤ 0 :=
      ⟨rfl, @not_le_of_gt ℝ _ _ _ positive⟩
    have perm : (earths : Table (Exact f)).entries.Perm reversed.entries :=
      (List.reverse_perm _).symm
    have made := (Table.ofEntries_eq_ok_iff (earths : Table (Exact f)).entries _).2
      ⟨sound_earths, rfl⟩
    have made' := (Table.ofEntries_eq_ok_iff reversed.entries _).2 ⟨sound_earths.perm perm, rfl⟩
    obtain ⟨s, solved⟩ := exists_solve sound_earths valid
    obtain ⟨s', solved', -⟩ := exists_solve_of_perm perm solved
    have same := (solve_of_permuted_entries.2 perm _ _ made made').2 _ s s' solved solved'
    exact ⟨s, s', solved, solved', same⟩

end Periapsis
