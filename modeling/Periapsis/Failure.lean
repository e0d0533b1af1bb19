import Periapsis.Body
import Periapsis.Csv.Fault
import Periapsis.Decimal.Layout
import Periapsis.Text.Quoted

/-!
# Failures

Everything that can go wrong, by its cause. `Failure.message` is the sentence shown to a user,
`Failure.trace` the form in which the program ends on one, and `Failure.kind` its name there.
-/

namespace Periapsis

/-- A component of a colour. -/
inductive Channel where
  | red
  | green
  | blue
deriving DecidableEq, Repr

/-- The name of a component in files and messages. -/
def Channel.name : Channel → String
  | red => "color_r"
  | green => "color_g"
  | blue => "color_b"

inductive Failure (α : Type) where
  /-- A field of a body does not allow its value. -/
  | invalidField (id : String) (field : Field) (value : α)
  /-- A colour is given only in part. -/
  | partialColor (id : String) (component : Channel)
  /-- The mass of the Sun is not finite and positive. -/
  | invalidSunMass (mass : α)
  /-- The time step is out of the simulator's range. -/
  | invalidTimeStep (seconds : Int)
  | duplicateBody (id : String)
  /-- The id is the Sun's, whose motion is solved for rather than given. -/
  | reservedId (id : String)
  /-- A file could not be opened or made. -/
  | file (cause : String)
  | csv (fault : Csv.Fault)
  /-- A scenario file is not one. -/
  | yaml
deriving DecidableEq, Repr

/-- The longest time step, in seconds: the simulator keeps it in 32 bits. -/
def maxTimeStep : Int := 2147483647

namespace Failure

/-- Numbers in messages have no exponent, and no point unless they need one. -/
def numbers : Layout where
  tie := .up
  positional := fun _ => true
  point := false
  notANumber := "NaN"
  infinity := "inf"
  minusInfinity := "-inf"

/-- Numbers in traces have a point, and an exponent when very large or very small. -/
def traceNumbers : Layout where
  tie := .up
  positional := fun e => decide (-4 ≤ e) && decide (e ≤ 15)
  point := true
  notANumber := "NaN"
  infinity := "inf"
  minusInfinity := "-inf"

/-- The name of a kind of failure. -/
def kind {α : Type} : Failure α → String
  | invalidField .. => "InvalidParameter"
  | partialColor .. => "MissingColorComponent"
  | invalidSunMass .. => "InvalidSunMass"
  | invalidTimeStep .. => "InvalidTimeStep"
  | duplicateBody .. => "DuplicateBody"
  | reservedId .. => "ReservedBodyId"
  | file .. => "IoError"
  | csv .. => "CsvError"
  | yaml => "YamlError"

/-- Whether a failure passes on one that happened elsewhere. -/
def hasSource {α : Type} : Failure α → Bool
  | file .. | csv .. | yaml => true
  | _ => false

def message : Failure Float → String
  | invalidField id field value => s!"Invalid {field.name} for body '{id}': {numbers.write value}"
  | partialColor id component =>
    s!"Incomplete color for body '{id}': {component.name} is missing"
  | invalidSunMass mass => s!"Invalid Sun mass {numbers.write mass}: must be finite and positive"
  | invalidTimeStep seconds =>
    s!"Invalid time step {seconds}: must be between 1 and {maxTimeStep}"
  | duplicateBody id => s!"Body '{id}' is defined more than once"
  | reservedId id => s!"Body id '{id}' is reserved for the Sun"
  | file cause => s!"I/O error: {cause}"
  | csv fault => s!"CSV error: {fault.message}"
  | yaml => "YAML error"

/-- The kind of a failure with its parts. What a file is at fault for is left out. -/
def trace : Failure Float → String
  | f@(invalidField id field value) =>
    s!"{f.kind} \x7b body: {Text.quoted id}, field: {Text.quoted field.name}, " ++
      s!"value: {traceNumbers.write value} \x7d"
  | f@(partialColor id component) =>
    s!"{f.kind} \x7b body: {Text.quoted id}, component: {Text.quoted component.name} \x7d"
  | f@(invalidSunMass mass) => s!"{f.kind}({traceNumbers.write mass})"
  | f@(invalidTimeStep seconds) => s!"{f.kind}({seconds})"
  | f@(duplicateBody id) | f@(reservedId id) => s!"{f.kind}({Text.quoted id})"
  | f@(file _) | f@(csv _) | f@yaml => f.kind

end Failure

end Periapsis
