import Periapsis.Roster
import Periapsis.SolarSystem
import Periapsis.Solution
import Periapsis.Text.Capital

/-!
# Scenarios

What the simulator starts from: a time step, and every body of a solved system and the Sun under
their ids, each with a name and a look.
-/

namespace Periapsis

/-- A body as the simulator has it. -/
structure Actor (α : Type) where
  name : String
  color : Color α
  radius : α
  mass : α
  state : State α
deriving BEq, DecidableEq, Repr

structure Scenario (α : Type) where
  /-- The time step in seconds. -/
  time : Int
  bodies : Roster (Actor α)
deriving BEq, DecidableEq, Repr

namespace Scenario

/-- The shortest time step, in seconds. -/
def defaultTimeStep : Int := 1

variable {α : Type} [Scalar α]

/-- The colour of a body that has none of its own. -/
def defaultColor : Color α := ⟨1.0, 1.0, 1.0⟩

/-- The Sun of a solved system. -/
def sun (s : Solution α) : Actor α where
  name := Text.capitalized sunId
  color := Sun.color
  radius := Sun.radius
  mass := s.sunMass
  state := s.sunState

/-- A placed body, in white and without extent where nothing else is given. -/
def actor (b : Placed α) : Actor α where
  name := Text.capitalized b.id
  color := b.body.color.getD defaultColor
  radius := b.body.radius.getD 0
  mass := b.body.mass
  state := b.state

/-- The Sun and the bodies of a solved system; an id that is given twice keeps its last body. -/
def ofSolution (s : Solution α) (timeStep : Int) : Except (Failure α) (Scenario α) :=
  if 1 ≤ timeStep ∧ timeStep ≤ maxTimeStep then
    .ok {
      time := timeStep
      bodies := .ofList ((sunId, sun s) :: s.bodies.map fun b => (b.id, actor b)) }
  else .error (.invalidTimeStep timeStep)

end Scenario

end Periapsis
