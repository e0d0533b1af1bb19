import Periapsis.Disk
import Periapsis.Report

/-!
# The command line

What the program does with its arguments: `Request.ofArguments` reads them, `Options.solved` solves
the system that they describe, `outputs` lists the files that they ask for, and `run` does all of
it on a disk. Nothing is printed or written before the system is solved; then comes the report, and
after it the files, up to the first that cannot be made.
-/

namespace Periapsis.CommandLine

/-- The options that were given. -/
structure Options where
  bodies : Option String := none
  sunMass : Option Float := none
  csv : Option String := none
  scenario : Option String := none
  timeStep : Option Int := none
  exportBodies : Option String := none

/-- What the arguments ask for. -/
inductive Request where
  | refused
  | version
  | help
  | solve (options : Options)

/-! ## Arguments -/

/-- A whole number of seconds that the simulator can keep. -/
def readTimeStep? (text : List Char) : Option Int :=
  let (negative, digits) := match text with
    | '-' :: digits => (true, digits)
    | '+' :: digits => (false, digits)
    | digits => (false, digits)
  if digits ≠ [] ∧ digits.all Char.isDigit then
    let size : Int := Decimal.digitsValue digits
    let value := if negative then -size else size
    if 1 ≤ value ∧ value ≤ maxTimeStep then some value else none
  else none

/-- Takes a value that was not given yet. -/
def give {β : Type} (old : Option β) (new : Option β) : Option (Option β) :=
  match old, new with
  | none, some value => some (some value)
  | _, _ => none

/-- Sets an option by its name. Each is given at most once, and never empty. -/
def Options.set? (o : Options) (name value : String) : Option Options :=
  if value = "" then none
  else match name with
    | "bodies" => (give o.bodies value).map fun v => { o with bodies := v }
    | "sun-mass" =>
      (give o.sunMass (Decimal.readFloat? value.toList)).map fun v => { o with sunMass := v }
    | "csv" => (give o.csv value).map fun v => { o with csv := v }
    | "scenario" => (give o.scenario value).map fun v => { o with scenario := v }
    | "time-step" =>
      (give o.timeStep (readTimeStep? value.toList)).map fun v => { o with timeStep := v }
    | "export-bodies" => (give o.exportBodies value).map fun v => { o with exportBodies := v }
    | _ => none

/-- What an argument is by itself. -/
inductive Argument where
  /-- Two hyphens alone: no options follow. -/
  | stop
  | version
  | help
  /-- An option with its value in the same argument. -/
  | attached (name value : String)
  /-- An option whose value is the next argument. -/
  | awaiting (name : String)
  | other

def Argument.ofString (text : String) : Argument :=
  match text.toList with
  | ['-', '-'] => stop
  | '-' :: '-' :: rest =>
    let name := String.ofList (rest.takeWhile (· ≠ '='))
    match rest.dropWhile (· ≠ '=') with
    | _ :: value => attached name (String.ofList value)
    | [] => if name = "version" then version else if name = "help" then help else awaiting name
  | '-' :: 'V' :: _ => version
  | '-' :: 'h' :: _ => help
  | _ => other

/-- Whether the argument after an option is its value. A hyphen starts another option, unless it
stands alone. -/
def isValue (text : String) : Bool :=
  match text.toList with
  | '-' :: _ :: _ => false
  | _ => true

/-- Reads the arguments from left to right. -/
def Request.ofArgumentsWith (o : Options) : List String → Request
  | [] => solve o
  | argument :: rest =>
    match Argument.ofString argument with
    | .stop => if rest = [] then solve o else refused
    | .version => version
    | .help => help
    | .attached name value =>
      match o.set? name value with
      | some o => ofArgumentsWith o rest
      | none => refused
    | .awaiting name =>
      match rest with
      | [] => refused
      | value :: rest =>
        if isValue value then
          match o.set? name value with
          | some o => ofArgumentsWith o rest
          | none => refused
        else refused
    | .other => refused

def Request.ofArguments (arguments : List String) : Request :=
  ofArgumentsWith {} arguments

/-! ## Runs -/

/-- Why a run ends early. -/
inductive Trouble where
  | failure (failure : Failure Float)
  /-- A file could not be made; the system says why. -/
  | system

/-- The form in which a run shows its trouble. -/
def Trouble.trace : Trouble → String
  | failure f => f.trace
  | system => "Os"

/-- The table and its solution, where opening paths gives what it does. -/
def Options.solvedFrom (o : Options) (opened : String → Except String Csv.Stream) :
    Except (Failure Float) (Table Float × Solution Float) := do
  let t ← match o.bodies with
    | some path => TableFile.load (opened path)
    | none => .ok solarSystem
  let s ← t.solve (o.sunMass.getD Sun.mass)
  return (t, s)

/-- The table and its solution, where paths lead to what they do. -/
def Options.solved (o : Options) (lookup : String → Entry) :
    Except (Failure Float) (Table Float × Solution Float) :=
  o.solvedFrom fun path => (lookup path).opened

/-- A file to be written. -/
structure Output where
  path : String
  text : Except (Failure Float) String
  /-- The trouble when it cannot be made. -/
  trouble : Trouble

/-- The scenario that is asked for, as a file. -/
def scenarioText (o : Options) (s : Solution Float) : Except (Failure Float) String :=
  (Scenario.ofSolution s (o.timeStep.getD Scenario.defaultTimeStep)).map ScenarioFile.write

/-- The files that are asked for, in the order in which they are written. -/
def outputs (o : Options) (t : Table Float) (s : Solution Float) : List Output :=
  o.csv.toList.map (fun path => ⟨path, .ok (Report.states s), .system⟩)
  ++ o.scenario.toList.map (fun path =>
    ⟨path, scenarioText o s, .failure (.file "the scenario could not be written")⟩)
  ++ o.exportBodies.toList.map (fun path => ⟨path, .ok (TableFile.write t), .system⟩)

/-- Writes files up to the first that cannot be made. -/
def writeAll (disk : Disk) : List Output → Disk × Option Trouble
  | [] => (disk, none)
  | output :: rest =>
    match output.text with
    | .error f => (disk, some (.failure f))
    | .ok text =>
      match disk.write output.path text with
      | some disk => writeAll disk rest
      | none => (disk, some output.trouble)

/-- What a run leaves behind. -/
structure Outcome where
  exit : Nat
  stdout : String
  trouble : Option Trouble
  disk : Disk
  /-- Whether the momentum of the solved system did not balance. -/
  unbalanced : Bool

def versionText : String := "heliostate 0.1.0\n"

/-- The options, each above what it does. Those that are numbers have a default. -/
def helpText : String :=
  let option (form purpose : String) : String := form ++ "\n          " ++ purpose ++ "\n"
  let default (value : String) : String := " [default: " ++ value ++ "]"
  "Heliocentric periapsis state vectors and zero-momentum Sun velocity\n\n" ++
  "Usage: heliostate [OPTIONS]\n\n" ++
  "Options:\n" ++
  option "      --bodies <BODIES>" "CSV body table (defaults to the built-in eight planets)" ++
  option "      --sun-mass <SUN_MASS>"
    ("Mass of the Sun in kg" ++ default (Failure.numbers.write Sun.mass)) ++
  option "      --csv <CSV>" "Also write state vectors to this CSV file" ++
  option "      --scenario <SCENARIO>" "Also write a simulator scenario to this YAML file" ++
  option "      --time-step <TIME_STEP>"
    ("Scenario time step in seconds" ++ default (toString Scenario.defaultTimeStep)) ++
  option "      --export-bodies <EXPORT_BODIES>" "Write the body table in use to this CSV file" ++
  option "  -h, --help" "Print help" ++
  option "  -V, --version" "Print version"

/-- A run that ends before anything is solved. -/
def Outcome.early (exit : Nat) (stdout : String) (trouble : Option Trouble) (disk : Disk) :
    Outcome :=
  { exit, stdout, trouble, disk, unbalanced := false }

def run (arguments : List String) (disk : Disk) : Outcome :=
  match Request.ofArguments arguments with
  | .refused => .early 2 "" none disk
  | .version => .early 0 versionText none disk
  | .help => .early 0 helpText none disk
  | .solve o =>
    match o.solved disk.lookup with
    | .error f => .early 1 "" (some (.failure f)) disk
    | .ok (t, s) =>
      let (disk, trouble) := writeAll disk (outputs o t s)
      { exit := if trouble.isSome then 1 else 0
        stdout := Report.text s
        trouble, disk
        unbalanced := !s.isBalanced }

end Periapsis.CommandLine
