import Periapsis.Scenario
import Periapsis.TableFile
import Periapsis.Yaml.Writer

/-!
# Scenario files

Scenarios as YAML: `ScenarioFile.write` and `ScenarioFile.read`. A file that is read may be in any
YAML style and have further fields, but only one document.
-/

namespace Periapsis.ScenarioFile

open Yaml

/-- Numbers as in table files, but with the words of YAML for those that are not finite. -/
def numbers : Layout :=
  { TableFile.numbers with notANumber := ".nan", infinity := ".inf", minusInfinity := "-.inf" }

/-! ## Writing -/

/-- A line behind spaces. -/
def line (indent : Nat) (text : List Char) : List Char :=
  List.replicate indent ' ' ++ text ++ ['\n']

/-- A field with a number. -/
def numberField (name : String) (x : Float) : List Char :=
  line 4 (name.toList ++ ": ".toList ++ numbers.chars x)

/-- A field with three numbers, one in a line. -/
def listField (name : String) (x y z : Float) : List Char :=
  line 4 (name.toList ++ ":".toList)
    ++ [x, y, z].flatMap fun x => line 4 ("- ".toList ++ numbers.chars x)

/-- The fields of a body behind the name. -/
def furtherFields (a : Actor Float) : List Char :=
  listField "color" a.color.red a.color.green a.color.blue
    ++ numberField "radius" a.radius
    ++ numberField "mass" a.mass
    ++ listField "position" a.state.position.x a.state.position.y a.state.position.z
    ++ listField "velocity" a.state.velocity.x a.state.velocity.y a.state.velocity.z

/-- Whether a key is too long for one line with its colon, or has lines of its own. -/
def needsLongForm (key : List Char) : Bool :=
  decide (128 < (Utf8.encode key).length) || key.any isWrittenBreak

/-- A key, in one line or behind a question mark, up to where the name of the body follows. -/
def writeKey (key : List Char) : List Char :=
  if needsLongForm key then "  ? ".toList ++ writeText 4 key ++ "  : ".toList
  else line 2 (writeScalar 2 key ++ [':']) ++ "    ".toList

/-- A body under its key. -/
def writeActor (entry : String × Actor Float) : List Char :=
  writeKey entry.1.toList ++ "name: ".toList ++ writeText 6 entry.2.name.toList
    ++ furtherFields entry.2

def writeBodies (entries : List (String × Actor Float)) : List Char :=
  match entries with
  | [] => line 0 "bodies: \x7b\x7d".toList
  | entries => line 0 "bodies:".toList ++ entries.flatMap writeActor

def write (s : Scenario Float) : String :=
  String.ofList (line 0 ("time: ".toList ++ (toString s.time).toList)
    ++ writeBodies s.bodies.entries)

/-! ## Reading -/

def readVector? (node : Node) : Option (Vec3 Float) :=
  node.numbers3?.map fun (x, y, z) => ⟨x, y, z⟩

def readColor? (node : Node) : Option (Color Float) :=
  node.numbers3?.map fun (r, g, b) => ⟨r, g, b⟩

def readActor? (node : Node) : Option (Actor Float) := do
  let fields ← node.fields?
  let name ← (← field? "name" fields).text?
  let color ← readColor? (← field? "color" fields)
  let radius ← (← field? "radius" fields).number?
  let mass ← (← field? "mass" fields).number?
  let position ← readVector? (← field? "position" fields)
  let velocity ← readVector? (← field? "velocity" fields)
  return { name, color, radius, mass, state := { position, velocity } }

/-- The bodies under their keys; of a key that comes again the last counts. Nothing at all is no
bodies. -/
def readBodies? (node : Node) : Option (Roster (Actor Float)) :=
  match node with
  | .scalar true "" => some .empty
  | node => do
    let fields ← node.fields?
    let entries ← fields.mapM fun (key, value) => (readActor? value).map fun a => (key, a)
    return .ofList entries

def ofNode? (node : Node) : Option (Scenario Float) := do
  let fields ← node.fields?
  let time ← (← field? "time" fields).int?
  let bodies ← readBodies? (← field? "bodies" fields)
  return { time, bodies }

/-- The scenario of a file. -/
def read (bytes : List UInt8) : Except (Failure Float) (Scenario Float) :=
  match source bytes >>= Token.scan? >>= Node.ofTokens? >>= ofNode? with
  | some scenario => .ok scenario
  | none => .error .yaml

end Periapsis.ScenarioFile
