import Periapsis.Table

/-!
# The Solar System

The Sun and the eight planets: mass, periapsis and speed there, how the orbit lies, radius and
colour. The planets stand in order from the Sun.
-/

namespace Periapsis

variable {α : Type} [Scalar α]

namespace Sun

/-- In kilograms. -/
def mass : α := 1988500e24

/-- In metres. -/
def radius : α := 695.700e6

def color : Color α := ⟨1.0, 0.85, 0.4⟩

end Sun

/-- The eight planets with their ids. -/
def planets : List (String × Body α) :=
  [("mercury", {
      mass := 0.330e24, periapsis := 46.0e9, speed := 58.98e3
      orientation := { argument := 77.45645, inclination := 7.004, ascendingNode := 48.33167 }
      radius := some 2439.7e3, color := some ⟨0.55, 0.53, 0.50⟩ }),
    ("venus", {
      mass := 4.87e24, periapsis := 107.480e9, speed := 35.26e3
      orientation := { argument := 131.53298, inclination := 3.395, ascendingNode := 76.68069 }
      radius := some 6051.8e3, color := some ⟨0.90, 0.79, 0.55⟩ }),
    ("earth", {
      mass := 5.97e24, periapsis := 147.0e9, speed := 30.29e3
      orientation := { argument := 85.9, inclination := 0.0, ascendingNode := -11.26064 }
      radius := some 6371.0e3, color := some ⟨0.1, 0.25, 0.35⟩ }),
    ("mars", {
      mass := 0.642e24, periapsis := 206.650e9, speed := 26.50e3
      orientation := { argument := 336.04084, inclination := 1.848, ascendingNode := 49.57854 }
      radius := some 3389.5e3, color := some ⟨0.76, 0.36, 0.22⟩ }),
    ("jupiter", {
      mass := 1898e24, periapsis := 740.595e9, speed := 13.72e3
      orientation := { argument := 14.75385, inclination := 1.304, ascendingNode := 100.55615 }
      radius := some 69911.0e3, color := some ⟨0.80, 0.69, 0.56⟩ }),
    ("saturn", {
      mass := 568e24, periapsis := 1357.554e9, speed := 10.18e3
      orientation := { argument := 92.43194, inclination := 2.486, ascendingNode := 113.71504 }
      radius := some 58232.0e3, color := some ⟨0.89, 0.81, 0.62⟩ }),
    ("uranus", {
      mass := 86.8e24, periapsis := 2732.696e9, speed := 7.11e3
      orientation := { argument := 170.96424, inclination := 0.770, ascendingNode := 74.22988 }
      radius := some 25362.0e3, color := some ⟨0.62, 0.84, 0.88⟩ }),
    ("neptune", {
      mass := 102e24, periapsis := 4471.050e9, speed := 5.50e3
      orientation := { argument := 44.97135, inclination := 1.770, ascendingNode := 131.72169 }
      radius := some 24622.0e3, color := some ⟨0.25, 0.41, 0.88⟩ })]

/-- The table that is used where none is given. -/
def solarSystem : Table α := ⟨planets⟩

end Periapsis
