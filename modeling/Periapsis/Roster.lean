/-!
# Rosters

Values under text keys, each key once and the keys in increasing order by code point. The order
belongs to the type, so two rosters with the same entries are the same roster.
-/

namespace Periapsis

structure Roster (β : Type) where
  entries : List (String × β)
  increasing : entries.Pairwise fun a b => a.1 < b.1
deriving DecidableEq, Repr

namespace Roster

variable {β : Type}

instance [BEq β] : BEq (Roster β) := ⟨fun r s => r.entries == s.entries⟩

def empty : Roster β := ⟨[], .nil⟩

/-- Puts a value under a key, in front of the larger keys and in place of an equal one. -/
def place (key : String) (value : β) : List (String × β) → List (String × β)
  | [] => [(key, value)]
  | entry :: rest =>
    if key < entry.1 then (key, value) :: entry :: rest
    else if key = entry.1 then (key, value) :: rest
    else entry :: place key value rest

theorem fst_eq_or_mem_of_mem_place {key : String} {value : β} {entries : List (String × β)}
    {e : String × β} (h : e ∈ place key value entries) : e.1 = key ∨ e ∈ entries := by
  induction entries with
  | nil => simp_all [place]
  | cons entry rest ih =>
    rw [place] at h
    split at h
    · grind
    · split at h <;> grind

theorem increasing_place (key : String) (value : β) {entries : List (String × β)}
    (h : entries.Pairwise fun a b => a.1 < b.1) :
    (place key value entries).Pairwise fun a b => a.1 < b.1 := by
  induction h with
  | nil => simp [place]
  | @cons entry rest larger _ ih =>
    rw [place]
    split
    case isTrue less =>
      refine .cons (fun e he => ?_) (.cons larger ‹_›)
      rcases List.mem_cons.1 he with rfl | he
      · exact less
      · exact String.lt_trans less (larger e he)
    case isFalse notLess =>
      split
      case isTrue same => exact .cons (fun e he => same ▸ larger e he) ‹_›
      case isFalse different =>
        refine .cons (fun e he => ?_) ih
        rcases fst_eq_or_mem_of_mem_place he with rfl | he
        · exact Std.lt_of_le_of_ne (String.not_lt.1 notLess) (Ne.symm different)
        · exact larger e he

/-- Puts a value under a key; what was there before is gone. -/
def insert (r : Roster β) (key : String) (value : β) : Roster β :=
  ⟨place key value r.entries, increasing_place key value r.increasing⟩

/-- One entry after another, so that of equal keys the last counts. -/
def ofList (entries : List (String × β)) : Roster β :=
  entries.foldl (fun r (key, value) => r.insert key value) empty

def get? (r : Roster β) (key : String) : Option β :=
  r.entries.lookup key

end Roster

end Periapsis
