import Periapsis.Proofs.Reachable
import Periapsis.Proofs.Roster

/-!
# Histories of a table

Attempts to insert bodies one after another, of which any may fail. What an
attempt comes to is told by the Sun's id, the ids that the table has and the
check of the body, in this order (`outcome_insert`), and a failure leaves the
table alone. So the table holds the attempts that went through, in their order
(`entries_attemptAll`), and everything about it is told by these
(`history_attempts`): a failed attempt is as if it had not been made, and its id
is still free.
-/

namespace Periapsis.Table

variable {α : Type}

/-! ## What is asked of a history -/

/-- The attempts that went through, in their order. -/
def successes (attempts : List (String × Body α)) (outcomes : List (Except (Failure α) Unit)) :
    List (String × Body α) :=
  ((attempts.zip outcomes).filter fun attempt => attempt.2.isOk).map Prod.fst

/-- The attempt with this number was this one, and it went through. -/
def WentThrough (attempts : List (String × Body α)) (outcomes : List (Except (Failure α) Unit))
    (number : Nat) (attempt : String × Body α) : Prop :=
  attempts[number]? = some attempt ∧ outcomes[number]? = some (Except.ok ())

theorem mem_successes_iff (attempts : List (String × Body α))
    (outcomes : List (Except (Failure α) Unit)) (attempt : String × Body α) :
    attempt ∈ successes attempts outcomes ↔ ∃ i, WentThrough attempts outcomes i attempt := by
  have ok_iff (outcome : Except (Failure α) Unit) : outcome.isOk = true ↔ outcome = .ok () := by
    cases outcome <;> simp [Except.isOk, Except.toBool]
  have paired (made : String × Body α) (outcome : Except (Failure α) Unit) :
      (made, outcome) ∈ attempts.zip outcomes ↔
        ∃ i : Nat, attempts[i]? = some made ∧ outcomes[i]? = some outcome := by
    simp only [List.mem_iff_getElem?, List.getElem?_zip_eq_some]
  simp only [successes, WentThrough, List.mem_map, List.mem_filter, ok_iff, ← paired]
  constructor
  · rintro ⟨⟨_, _⟩, ⟨mem, rfl⟩, rfl⟩
    exact mem
  · exact fun mem => ⟨(attempt, .ok ()), ⟨mem, rfl⟩, rfl⟩

theorem wentThrough_take_iff (attempts : List (String × Body α))
    (outcomes : List (Except (Failure α) Unit)) (i j : Nat) (attempt : String × Body α) :
    WentThrough (attempts.take i) (outcomes.take i) j attempt ↔
      j < i ∧ WentThrough attempts outcomes j attempt := by
  rw [WentThrough, WentThrough, List.getElem?_take, List.getElem?_take]
  split <;> simp [*]

variable [Scalar α]

/-- What becomes of attempts to insert bodies into an empty table, told by the
outcomes of the attempts and by the table after so many of them. -/
structure History (attempts : List (String × Body α)) (outcomes : List (Except (Failure α) Unit))
    (after : Nat → Table α) : Prop where
  length : outcomes.length = attempts.length
  /-- An attempt goes through exactly when its id is not the Sun's and not that of
  an attempt that went through before, and its body is physical. -/
  ok_iff : ∀ (i : Nat) id body, attempts[i]? = some (id, body) →
    (outcomes[i]? = some (Except.ok ()) ↔ ¬ SameLetters id sunId ∧
      (∀ j < i, ∀ other, ¬ WentThrough attempts outcomes j (id, other)) ∧
      body.checked id () = .ok ())
  /-- The Sun's id is the first that is found at fault, -/
  reserved : ∀ (i : Nat) id body, attempts[i]? = some (id, body) → SameLetters id sunId →
    outcomes[i]? = some (Except.error (Failure.reservedId id))
  /-- then an id that is taken, -/
  duplicate : ∀ (i : Nat) id body, attempts[i]? = some (id, body) → ¬ SameLetters id sunId →
    (∃ j < i, ∃ other, WentThrough attempts outcomes j (id, other)) →
    outcomes[i]? = some (Except.error (Failure.duplicateBody id))
  /-- then the body. -/
  invalid : ∀ (i : Nat) id body, attempts[i]? = some (id, body) → ¬ SameLetters id sunId →
    (∀ j < i, ∀ other, ¬ WentThrough attempts outcomes j (id, other)) →
    ∀ failure, body.checked id () = .error failure → outcomes[i]? = some (Except.error failure)
  unchanged : ∀ (i : Nat) failure, outcomes[i]? = some (Except.error failure) →
    after (i + 1) = after i
  entries : (after attempts.length).entries = successes attempts outcomes
  ids : (after attempts.length).ids = (successes attempts outcomes).map Prod.fst
  size : (after attempts.length).size = (successes attempts outcomes).length
  /-- No two attempts with one id go through, -/
  unique : ∀ i j id body other, WentThrough attempts outcomes i (id, body) →
    WentThrough attempts outcomes j (id, other) → i = j
  /-- and the one that did is found. -/
  get?_eq_some_iff : ∀ id body, (after attempts.length).get? id = some body ↔
    ∃ i, WentThrough attempts outcomes i (id, body)
  get?_eq_none_iff : ∀ id, (after attempts.length).get? id = none ↔
    ∀ i body, ¬ WentThrough attempts outcomes i (id, body)
  /-- A table of all entries at once is made when all attempts go through, -/
  made : (∀ outcome ∈ outcomes, outcome = Except.ok ()) →
    ofEntries attempts = .ok (after attempts.length)
  /-- and else fails as the first attempt that does. -/
  failed : ∀ (i : Nat) failure, (∀ j < i, outcomes[j]? = some (Except.ok ())) →
    outcomes[i]? = some (Except.error failure) → ofEntries attempts = .error failure

/-! ## One attempt -/

/-- What is at fault with an insertion is looked for in this order. -/
theorem outcome_insert (t : Table α) (id : String) (body : Body α) :
    (t.insert id body).map (fun _ => ()) =
      if isSunId id then .error (.reservedId id)
      else if id ∈ t.ids then .error (.duplicateBody id)
      else body.checked id () := by
  have taken : (t.get? id).isSome = true ↔ id ∈ t.ids := by
    rw [← not_iff_not, ← get?_eq_none_iff, Bool.not_eq_true, Option.isSome_eq_false_iff,
      Option.isNone_iff_eq_none]
  unfold insert Body.checked
  simp only [taken]
  split
  · rfl
  · split
    · rfl
    · cases body.offence? <;> rfl

/-- An attempt that goes through adds its entry, any other changes nothing. -/
theorem entries_attempt (t : Table α) (id : String) (body : Body α) :
    (t.attempt id body).entries = t.entries ++
      if ((t.insert id body).map fun _ => ()).isOk then [(id, body)] else [] := by
  rw [attempt]
  cases came : t.insert id body with
  | ok t' =>
    obtain ⟨-, rfl⟩ := (insert_eq_ok_iff ..).1 came
    rfl
  | error failure => exact (List.append_nil _).symm

/-! ## Attempts one after another -/

/-- The table after attempts. -/
def attemptAll (t : Table α) (attempts : List (String × Body α)) : Table α :=
  attempts.foldl (fun t attempt => t.attempt attempt.1 attempt.2) t

/-- What each attempt comes to. -/
def outcomes (t : Table α) : List (String × Body α) → List (Except (Failure α) Unit)
  | [] => []
  | attempt :: later =>
    (t.insert attempt.1 attempt.2).map (fun _ => ()) ::
      (t.attempt attempt.1 attempt.2).outcomes later

theorem length_outcomes (t : Table α) (attempts : List (String × Body α)) :
    (t.outcomes attempts).length = attempts.length := by
  induction attempts generalizing t with
  | nil => rfl
  | cons attempt later ih => rw [outcomes, List.length_cons, List.length_cons, ih]

/-- An attempt meets the table that those before it have left. -/
theorem getElem?_outcomes (t : Table α) (attempts : List (String × Body α)) (i : Nat) :
    (t.outcomes attempts)[i]? = attempts[i]?.map fun attempt =>
      ((t.attemptAll (attempts.take i)).insert attempt.1 attempt.2).map fun _ => () := by
  induction attempts generalizing t i with
  | nil => rfl
  | cons attempt later ih =>
    cases i with
    | zero => rfl
    | succ i =>
      rw [outcomes, List.getElem?_cons_succ, List.getElem?_cons_succ, ih]
      rfl

theorem outcomes_take (t : Table α) (attempts : List (String × Body α)) (i : Nat) :
    t.outcomes (attempts.take i) = (t.outcomes attempts).take i := by
  induction attempts generalizing t i with
  | nil => rw [List.take_nil, outcomes, List.take_nil]
  | cons attempt later ih =>
    cases i with
    | zero => rfl
    | succ i => rw [List.take_succ_cons, outcomes, outcomes, List.take_succ_cons, ih]

theorem attemptAll_take_succ (t : Table α) {attempts : List (String × Body α)} {i : Nat}
    {attempt : String × Body α} (h : attempts[i]? = some attempt) :
    t.attemptAll (attempts.take (i + 1)) =
      (t.attemptAll (attempts.take i)).attempt attempt.1 attempt.2 := by
  rw [attemptAll, List.take_add_one, h, List.foldl_append]
  rfl

/-- The table holds what it held and the attempts that went through. -/
theorem entries_attemptAll (t : Table α) (attempts : List (String × Body α)) :
    (t.attemptAll attempts).entries = t.entries ++ successes attempts (t.outcomes attempts) := by
  induction attempts generalizing t with
  | nil => exact (List.append_nil _).symm
  | cons attempt later ih =>
    calc
      _ = (t.attempt attempt.1 attempt.2).entries ++
          successes later ((t.attempt attempt.1 attempt.2).outcomes later) := ih _
      _ = t.entries ++ successes (attempt :: later) (t.outcomes (attempt :: later)) := by
        rw [entries_attempt, List.append_assoc, outcomes]
        simp only [successes, List.zip_cons_cons, List.filter_cons]
        split <;> rfl

theorem entries_attemptAll_empty (attempts : List (String × Body α)) :
    (empty.attemptAll attempts).entries = successes attempts (empty.outcomes attempts) := by
  rw [entries_attemptAll, empty, List.nil_append]

theorem Sound.attemptAll {t : Table α} (h : t.Sound) (attempts : List (String × Body α)) :
    (t.attemptAll attempts).Sound := by
  induction attempts generalizing t with
  | nil => exact h
  | cons attempt later ih => exact ih (h.attempt attempt.1 attempt.2)

theorem insertAll_cons (t : Table α) (attempt : String × Body α) (later : List (String × Body α)) :
    t.insertAll (attempt :: later) =
      t.insert attempt.1 attempt.2 >>= fun t => t.insertAll later :=
  rfl

/-- Entries are inserted all at once when all attempts go through. -/
theorem insertAll_of_ok {t : Table α} {attempts : List (String × Body α)}
    (h : ∀ outcome ∈ t.outcomes attempts, outcome = .ok ()) :
    t.insertAll attempts = .ok (t.attemptAll attempts) := by
  induction attempts generalizing t with
  | nil => rfl
  | cons attempt later ih =>
    rw [outcomes, List.forall_mem_cons] at h
    rw [insertAll_cons]
    cases came : t.insert attempt.1 attempt.2 with
    | ok t' =>
      rw [Table.attempt, came] at h
      rw [attemptAll, List.foldl_cons, Table.attempt, came]
      exact ih h.2
    | error failure =>
      rw [came] at h
      cases h.1

/-- The first attempt that fails ends an insertion of all entries. -/
theorem insertAll_of_error {t : Table α} {attempts : List (String × Body α)} {i : Nat}
    {failure : Failure α} (before : ∀ j < i, (t.outcomes attempts)[j]? = some (.ok ()))
    (h : (t.outcomes attempts)[i]? = some (.error failure)) :
    t.insertAll attempts = .error failure := by
  induction attempts generalizing t i with
  | nil => cases h
  | cons attempt later ih =>
    rw [insertAll_cons]
    rw [outcomes] at before h
    cases came : t.insert attempt.1 attempt.2 with
    | ok t' =>
      cases i with
      | zero =>
        rw [came] at h
        cases h
      | succ i =>
        rw [Table.attempt, came] at before h
        exact ih (fun j less => before (j + 1) (Nat.succ_lt_succ less)) h
    | error other =>
      cases i with
      | zero =>
        rw [came] at h
        cases h
        rfl
      | succ i =>
        have first := before 0 i.succ_pos
        rw [came] at first
        cases first

/-! ## The attempts that went through -/

/-- An id is taken when an attempt with it went through before. -/
theorem mem_ids_attemptAll_take_iff (attempts : List (String × Body α)) (i : Nat) (id : String) :
    id ∈ (empty.attemptAll (attempts.take i)).ids ↔
      ∃ j < i, ∃ other, WentThrough attempts (empty.outcomes attempts) j (id, other) := by
  rw [ids, entries_attemptAll_empty, outcomes_take, List.mem_map]
  simp only [mem_successes_iff, wentThrough_take_iff]
  constructor
  · rintro ⟨⟨_, other⟩, ⟨j, less, made⟩, rfl⟩
    exact ⟨j, less, other, made⟩
  · rintro ⟨j, less, other, made⟩
    exact ⟨(id, other), ⟨j, less, made⟩, rfl⟩

theorem outcome_attempt {attempts : List (String × Body α)} {i : Nat} {id : String} {body : Body α}
    (h : attempts[i]? = some (id, body)) :
    (empty.outcomes attempts)[i]? = some (
      if isSunId id then .error (.reservedId id)
      else if id ∈ (empty.attemptAll (attempts.take i)).ids then .error (.duplicateBody id)
      else body.checked id ()) := by
  rw [getElem?_outcomes, h, Option.map_some, outcome_insert]

theorem outcome_eq_ok_iff {attempts : List (String × Body α)} {i : Nat} {id : String}
    {body : Body α} (h : attempts[i]? = some (id, body)) :
    (empty.outcomes attempts)[i]? = some (.ok ()) ↔ ¬ SameLetters id sunId ∧
      (∀ j < i, ∀ other, ¬ WentThrough attempts (empty.outcomes attempts) j (id, other)) ∧
      body.checked id () = .ok () := by
  rw [outcome_attempt h, ← isSunId_eq_true_iff]
  have free := not_congr (mem_ids_attemptAll_take_iff attempts i id)
  push Not at free
  rw [← free]
  split_ifs <;> simp [*]

theorem unique_wentThrough {attempts : List (String × Body α)} {i j : Nat} {id : String}
    {body other : Body α} (h : WentThrough attempts (empty.outcomes attempts) i (id, body))
    (h' : WentThrough attempts (empty.outcomes attempts) j (id, other)) : i = j := by
  have later {i j : Nat} {body other : Body α}
      (h : WentThrough attempts (empty.outcomes attempts) i (id, body))
      (h' : WentThrough attempts (empty.outcomes attempts) j (id, other)) : ¬ i < j :=
    fun less => ((outcome_eq_ok_iff h'.1).1 h'.2).2.1 i less body h
  exact Nat.le_antisymm (Nat.le_of_not_lt (later h' h)) (Nat.le_of_not_lt (later h h'))

theorem get?_attemptAll_eq_some_iff (attempts : List (String × Body α)) (id : String)
    (body : Body α) : (empty.attemptAll attempts).get? id = some body ↔
      ∃ i, WentThrough attempts (empty.outcomes attempts) i (id, body) := by
  rw [get?, lookup_eq_some_iff_mem (sound_empty.attemptAll attempts).distinct,
    entries_attemptAll_empty, mem_successes_iff]

/-- Attempts to insert bodies into an empty table have the history that is asked of them. -/
theorem history_attempts (attempts : List (String × Body α)) :
    History attempts (empty.outcomes attempts) fun count =>
      empty.attemptAll (attempts.take count) where
  length := length_outcomes ..
  ok_iff _ _ _ := outcome_eq_ok_iff
  reserved i id body h sun := by
    rw [outcome_attempt h, if_pos ((isSunId_eq_true_iff id).2 sun)]
  duplicate i id body h notSun taken := by
    rw [outcome_attempt h, if_neg (mt (isSunId_eq_true_iff id).1 notSun),
      if_pos ((mem_ids_attemptAll_take_iff attempts i id).2 taken)]
  invalid i id body h notSun free failure offends := by
    have fresh : id ∉ (empty.attemptAll (attempts.take i)).ids := fun taken =>
      have ⟨j, less, other, made⟩ := (mem_ids_attemptAll_take_iff attempts i id).1 taken
      free j less other made
    rw [outcome_attempt h, if_neg (mt (isSunId_eq_true_iff id).1 notSun), if_neg fresh, offends]
  unchanged i failure h := by
    rw [getElem?_outcomes, Option.map_eq_some_iff] at h
    obtain ⟨attempt, made, came⟩ := h
    rw [attemptAll_take_succ empty made, Table.attempt]
    split
    · rename_i inserted
      rw [inserted] at came
      cases came
    · rfl
  entries := by rw [List.take_length, entries_attemptAll_empty]
  ids := by rw [List.take_length, ids, entries_attemptAll_empty]
  size := by rw [List.take_length, size, entries_attemptAll_empty]
  unique _ _ _ _ _ := unique_wentThrough
  get?_eq_some_iff id body := by rw [List.take_length, get?_attemptAll_eq_some_iff]
  get?_eq_none_iff id := by
    simp only [List.take_length, Option.eq_none_iff_forall_ne_some, Ne,
      get?_attemptAll_eq_some_iff, not_exists]
    exact forall_comm
  made h := by rw [List.take_length]; exact insertAll_of_ok h
  failed _ _ before h := insertAll_of_error before h

/-- Attempts that fail for each reason, and one with an id that was turned down before. -/
def retries : List (String × Body Float) :=
  [("SUN", ⟨1, 1, 1, ⟨0, 0, 0⟩, none, none⟩), ("rock", ⟨-1, 1, 1, ⟨0, 0, 0⟩, none, none⟩),
    ("rock", ⟨2, 1, 1, ⟨0, 0, 0⟩, none, none⟩), ("rock", ⟨3, 1, 1, ⟨0, 0, 0⟩, none, none⟩)]

/-- The third of them goes through, whose id is not taken by the second. -/
theorem history_retries :
    empty.outcomes retries = [.error (.reservedId "SUN"), .error (.invalidField "rock" .mass (-1)),
      .ok (), .error (.duplicateBody "rock")] ∧
    (empty.attemptAll retries).ids = ["rock"] ∧
    (empty.attemptAll retries).get? "rock" = some ⟨2, 1, 1, ⟨0, 0, 0⟩, none, none⟩ ∧
    (empty.attemptAll retries).get? "SUN" = none ∧
    ofEntries retries = .error (.reservedId "SUN") := by
  have came : empty.outcomes retries = [.error (.reservedId "SUN"),
      .error (.invalidField "rock" .mass (-1)), .ok (), .error (.duplicateBody "rock")] := by
    decide +kernel
  have history := history_attempts retries
  rw [came] at history
  refine ⟨came, history.ids, (history.get?_eq_some_iff ..).2 ⟨2, rfl, rfl⟩, ?_,
    history.failed 0 _ nofun rfl⟩
  refine (history.get?_eq_none_iff ..).2 fun i body ⟨made, through⟩ => ?_
  match i with
  | 0 => cases through
  | 1 | 2 | 3 => simp [retries] at made
  | i + 4 => cases made

end Periapsis.Table
