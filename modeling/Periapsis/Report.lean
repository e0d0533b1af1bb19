import Periapsis.Csv.Writer
import Periapsis.Solution

/-!
# Reports

A solved system for people to read, and its states as a comma-separated file. Both write numbers
without an exponent, and without a point unless there are digits behind it.
-/

namespace Periapsis.Report

def number (x : Float) : List Char :=
  Failure.numbers.chars x

def components (v : Vec3 Float) : List Char :=
  [',', ' '].intercalate [number v.x, number v.y, number v.z]

def line (text : List Char) : List Char :=
  text ++ ['\n']

/-- The id, the position and the velocity of a body, and an empty line. -/
def body (b : Placed Float) : List Char :=
  line b.id.toList ++ line (components b.state.position) ++ line (components b.state.velocity)
    ++ line []

/-- A vector in brackets behind its name. -/
def total (name : String) (v : Vec3 Float) : List Char :=
  line (name.toList ++ ": [".toList ++ components v ++ "]".toList)

/-- The bodies, their momentum, and the velocity of the Sun. -/
def text (s : Solution Float) : String :=
  String.ofList (s.bodies.flatMap body ++ total "Total momentum" s.momentum
    ++ total "Sun velocity for zero momentum" s.sunVelocity)

def stateHeader : List (List Char) :=
  ["id", "mass", "position_x", "position_y", "position_z", "velocity_x", "velocity_y",
    "velocity_z"].map String.toList

def stateRecord (id : String) (mass : Float) (s : State Float) : List (List Char) :=
  id.toList :: [mass, s.position.x, s.position.y, s.position.z, s.velocity.x, s.velocity.y,
    s.velocity.z].map number

/-- One record for each body behind the header, and a last one for the Sun. -/
def stateRecords (s : Solution Float) : List (List (List Char)) :=
  stateHeader :: s.bodies.map (fun b => stateRecord b.id b.body.mass b.state)
    ++ [stateRecord sunId s.sunMass s.sunState]

/-- The states as a file. -/
def states (s : Solution Float) : String :=
  String.ofList (Csv.write (stateRecords s))

end Periapsis.Report
