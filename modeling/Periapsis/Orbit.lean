import Periapsis.Table

/-!
# States at the periapsis

Where a body is and how it moves when it is nearest to the Sun. In the frame of its own orbit the
periapsis lies along +X and the velocity there along +Z; the orientation of the orbit carries both
into the heliocentric frame.
-/

namespace Periapsis

/-- A position in metres and a velocity in metres per second. -/
structure State (α : Type) where
  position : Vec3 α
  velocity : Vec3 α
deriving BEq, DecidableEq, Repr

/-- A body of a table with its heliocentric state. -/
structure Placed (α : Type) where
  id : String
  body : Body α
  state : State α
deriving BEq, DecidableEq, Repr

variable {α : Type} [Scalar α]

/-- The momentum of a mass in a state. -/
def State.momentum (s : State α) (mass : α) : Vec3 α :=
  s.velocity * mass

namespace Body

/-- The state in the frame of the orbit. -/
def periapsisState (b : Body α) : State α where
  position := ⟨b.periapsis, 0, 0⟩
  velocity := ⟨0, 0, b.speed⟩

/-- What is physical has its value, what is not fails under the given id. -/
def checked (b : Body α) (id : String) {β : Type} (value : β) : Except (Failure α) β :=
  match b.offence? with
  | some (field, offending) => .error (.invalidField id field offending)
  | none => .ok value

/-- The heliocentric state, through the one matrix of the orientation. -/
def state (b : Body α) (id : String) : Except (Failure α) (State α) :=
  let turn := b.orientation.rotation
  b.checked id ⟨turn * b.periapsisState.position, turn * b.periapsisState.velocity⟩

/-- The heliocentric state, one turn after another. -/
def stateInSteps (b : Body α) (id : String) : Except (Failure α) (State α) :=
  b.checked id
    ⟨b.orientation.applyInSteps b.periapsisState.position,
      b.orientation.applyInSteps b.periapsisState.velocity⟩

end Body

/-- Places every body of a table, up to the first that is not physical. -/
def Table.place (t : Table α) : Except (Failure α) (List (Placed α)) :=
  t.entries.mapM fun (id, body) => (body.state id).map fun state => ⟨id, body, state⟩

/-- The momenta of placed bodies, added in their order. -/
def momentum (bodies : List (Placed α)) : Vec3 α :=
  bodies.foldl (fun sum b => sum + b.state.momentum b.body.mass) 0

/-- The momentum of a table without the Sun. -/
def Table.momentum (t : Table α) : Except (Failure α) (Vec3 α) :=
  t.place.map Periapsis.momentum

end Periapsis
