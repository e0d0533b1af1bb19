import Periapsis.Rotation

/-!
# Bodies

What is given of a body: its mass, how far from the Sun and how fast it is at its periapsis, how
its orbit lies, and how a simulator may draw it. `Body.offence?` says what keeps a body from being
physical, and finds the first such field.
-/

namespace Periapsis

/-- Red, green and blue, each from 0 to 1. -/
structure Color (α : Type) where
  red : α
  green : α
  blue : α
deriving BEq, DecidableEq, Repr

def Color.components {α : Type} (c : Color α) : List α :=
  [c.red, c.green, c.blue]

/-- A body at its periapsis, in kilograms, metres, metres per second and degrees. The radius and
the colour are for display only. -/
structure Body (α : Type) where
  mass : α
  periapsis : α
  speed : α
  orientation : Orientation α
  radius : Option α
  color : Option (Color α)
deriving BEq, DecidableEq, Repr

/-- The parts of a body that have rules of their own. -/
inductive Field where
  | mass
  | periapsis
  | speed
  | argument
  | inclination
  | ascendingNode
  | radius
  | color
deriving DecidableEq, Repr

/-- The name of a field in files and messages. -/
def Field.name : Field → String
  | mass => "mass"
  | periapsis => "periapsis"
  | speed => "speed"
  | argument => "argument_of_periapsis"
  | inclination => "inclination"
  | ascendingNode => "longitude_of_ascending_node"
  | radius => "radius"
  | color => "color"

namespace Body

variable {α : Type} [Scalar α]

/-- Finite and not below zero, as masses, distances and speeds are. -/
def isMagnitude (a : α) : Bool :=
  Scalar.isFinite a && !(decide (a < 0))

/-- From zero to one, as the components of a colour are. -/
def isShare (a : α) : Bool :=
  decide (0 ≤ a) && decide (a ≤ 1)

/-- Every value of a body with the field it belongs to and whether that field allows it, in the
order in which they are checked. -/
def checks (b : Body α) : List (Field × α × Bool) :=
  [(.mass, b.mass, isMagnitude b.mass),
    (.periapsis, b.periapsis, isMagnitude b.periapsis),
    (.speed, b.speed, isMagnitude b.speed),
    (.argument, b.orientation.argument, Scalar.isFinite b.orientation.argument),
    (.inclination, b.orientation.inclination, Scalar.isFinite b.orientation.inclination),
    (.ascendingNode, b.orientation.ascendingNode, Scalar.isFinite b.orientation.ascendingNode)]
  ++ b.radius.toList.map (fun r => (.radius, r, isMagnitude r))
  ++ (b.color.toList.flatMap Color.components).map (fun c => (.color, c, isShare c))

/-- The first field that does not allow its value, with the value. -/
def offence? (b : Body α) : Option (Field × α) :=
  (b.checks.find? (fun check => !check.2.2)).map fun check => (check.1, check.2.1)

end Body

end Periapsis
