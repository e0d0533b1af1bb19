import Periapsis.CommandLine

/-!
# The program

Carries out a command line: reads the table, prints the report and writes the files. What is
printed and written is decided by the modules below.
-/

namespace Periapsis.Program

open CommandLine

/-- Reads piece by piece, up to the end or up to where reading fails. -/
def readPieces (handle : IO.FS.Handle) : IO Csv.Stream := do
  let mut bytes := ByteArray.empty
  repeat
    match ← (handle.read 65536).toBaseIO with
    | .error e => return ⟨bytes.toList, some (toString e)⟩
    | .ok piece =>
      if piece.isEmpty then break
      bytes := bytes ++ piece
  return ⟨bytes.toList, none⟩

/-- What opening a path gives on this system. -/
def openedAt (path : String) : IO (Except String Csv.Stream) := do
  match ← (IO.FS.Handle.mk path .read).toBaseIO with
  | .error e => return .error (toString e)
  | .ok handle => return .ok (← readPieces handle)

/-- Writes files up to the first that cannot be made. -/
def writeFiles : List Output → IO (Option Trouble)
  | [] => return none
  | output :: rest =>
    match output.text with
    | .error f => return some (.failure f)
    | .ok text => do
      let made ← try
          IO.FS.writeFile output.path text
          pure true
        catch _ => pure false
      if made then writeFiles rest else return some output.trouble

def fail (trouble : Trouble) : IO UInt32 := do
  IO.eprintln s!"Error: {trouble.trace}"
  return 1

def solve (o : Options) : IO UInt32 := do
  let bodies ← openedAt (o.bodies.getD "")
  match o.solvedFrom fun _ => bodies with
  | .error f => fail (.failure f)
  | .ok (t, s) => do
    if !s.isBalanced then IO.eprintln "WARN system momentum did not balance"
    IO.print (Report.text s)
    match ← writeFiles (outputs o t s) with
    | some trouble => fail trouble
    | none => return 0

end Periapsis.Program

def main (arguments : List String) : IO UInt32 := do
  match Periapsis.CommandLine.Request.ofArguments arguments with
  | .refused =>
    IO.eprintln "error: the arguments were refused; for more information, try '--help'."
    return 2
  | .version =>
    IO.print Periapsis.CommandLine.versionText
    return 0
  | .help =>
    IO.print Periapsis.CommandLine.helpText
    return 0
  | .solve o => Periapsis.Program.solve o
