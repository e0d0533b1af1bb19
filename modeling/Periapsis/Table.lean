import Periapsis.Failure

/-!
# Tables of bodies

The bodies of a system under their ids, in the order in which they were given. A table grows by
`Table.insert`, which turns down the Sun's id, an id that is taken and a body that is not physical,
in this order.
-/

namespace Periapsis

/-- The id and scenario key of the Sun. -/
def sunId : String := "sun"

/-- Whether an id is the Sun's, in any case of ASCII letters. No other letters count. -/
def isSunId (id : String) : Bool :=
  id.toList.map Char.toLower == sunId.toList

structure Table (α : Type) where
  entries : List (String × Body α)
deriving BEq, DecidableEq, Repr

namespace Table

variable {α : Type}

def empty : Table α := ⟨[]⟩

def size (t : Table α) : Nat :=
  t.entries.length

def ids (t : Table α) : List String :=
  t.entries.map Prod.fst

def get? (t : Table α) (id : String) : Option (Body α) :=
  t.entries.lookup id

variable [Scalar α]

/-- Adds a body at the end. -/
def insert (t : Table α) (id : String) (body : Body α) : Except (Failure α) (Table α) :=
  if isSunId id then .error (.reservedId id)
  else if (t.get? id).isSome then .error (.duplicateBody id)
  else match body.offence? with
    | some (field, value) => .error (.invalidField id field value)
    | none => .ok ⟨t.entries ++ [(id, body)]⟩

/-- Adds bodies one after another, up to the first that is turned down. -/
def insertAll (t : Table α) (entries : List (String × Body α)) : Except (Failure α) (Table α) :=
  entries.foldlM (fun t (id, body) => t.insert id body) t

def ofEntries (entries : List (String × Body α)) : Except (Failure α) (Table α) :=
  empty.insertAll entries

end Table

end Periapsis
