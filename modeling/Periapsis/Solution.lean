import Periapsis.Orbit

/-!
# Solved systems

A system is solved when the Sun moves such that nothing of the momentum is left. `Table.solve` finds
that velocity; `Solution.isBalanced` looks at what rounding has left over.
-/

namespace Periapsis

variable {α : Type} [Scalar α]

/-- The velocity that gives a mass the opposite of a momentum. -/
def compensation (momentum : Vec3 α) (sunMass : α) : Except (Failure α) (Vec3 α) :=
  if Scalar.isFinite sunMass && !decide (sunMass ≤ 0) then .ok (-momentum / sunMass)
  else .error (.invalidSunMass sunMass)

/-- The momentum of bodies and Sun together. -/
def residual (momentum sunVelocity : Vec3 α) (sunMass : α) : Vec3 α :=
  momentum + sunVelocity * sunMass

/-- Every body in its place, their momentum, and the Sun that makes up for it. -/
structure Solution (α : Type) where
  bodies : List (Placed α)
  momentum : Vec3 α
  sunMass : α
  sunVelocity : Vec3 α
deriving BEq, DecidableEq, Repr

namespace Solution

/-- The first body with an id. -/
def body? {α : Type} (s : Solution α) (id : String) : Option (Placed α) :=
  s.bodies.find? fun b => b.id == id

/-- The Sun stands at the origin. -/
def sunState (s : Solution α) : State α where
  position := 0
  velocity := s.sunVelocity

def residual (s : Solution α) : Vec3 α :=
  Periapsis.residual s.momentum s.sunVelocity s.sunMass

/-- The share of the momentum that may be left over. -/
def tolerance : α := 1e-9

def isBalanced (s : Solution α) : Bool :=
  decide (s.residual.magnitude ≤ s.momentum.magnitude * tolerance)

end Solution

/-- Solves a table for a mass of the Sun. An unphysical body fails before an unphysical Sun. -/
def Table.solve (t : Table α) (sunMass : α) : Except (Failure α) (Solution α) := do
  let bodies ← t.place
  let momentum := Periapsis.momentum bodies
  let sunVelocity ← compensation momentum sunMass
  return { bodies, momentum, sunMass, sunVelocity }

end Periapsis
