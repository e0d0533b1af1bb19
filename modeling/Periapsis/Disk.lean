import Periapsis.ScenarioFile
import Periapsis.TableFile

/-!
# Disks

Files and directories as a value: what a path leads to, loading tables and scenarios from it, and
writing a file. Paths are relative to the directory the program runs in. Above it there are only
directories, and nothing else is known of what lies outside.
-/

namespace Periapsis

/-- The names on the way from the working directory to a file or directory, after as many steps up
as that takes, or a slash for the root. -/
abbrev Path := List String

namespace Path

/-- The root of all directories. -/
def root : Path := ["/"]

/-- Whether a place lies on the way up to the root, the working directory included. -/
def isAbove (path : Path) : Bool :=
  path == root || path.all (· == "..")

/-- The directory around a place. The root has none but itself. -/
def parent (path : Path) : Path :=
  if path = root then root
  else if path.isAbove then path ++ [".."]
  else path.dropLast

end Path

/-- The most bytes in a name. -/
def longestName : Nat := 255

/-- The most bytes in a path as it is written. -/
def longestPath : Nat := 4095

/-- What a path leads to. -/
inductive Entry where
  /-- Nothing that can be opened, and why. -/
  | absent (cause : String)
  | directory
  | file (bytes : List UInt8)
deriving DecidableEq, Repr

namespace Entry

/-- Where nothing is. -/
def missing : Entry :=
  absent "No such file or directory (os error 2)"

/-- Whether a file can take the place, as it can where nothing is. -/
def isReplaceable : Entry → Bool
  | absent cause => absent cause = missing
  | directory => false
  | file _ => true

/-- What opening gives. A directory opens like a file, but nothing can be read from it. -/
def opened : Entry → Except String Csv.Stream
  | absent cause => .error cause
  | directory => .ok ⟨[], some "Is a directory (os error 21)"⟩
  | file bytes => .ok ⟨bytes, none⟩

/-- The table in a file. -/
def table (entry : Entry) : Except (Failure Float) (Table Float) :=
  TableFile.load entry.opened

@[simp]
theorem table_file (bytes : List UInt8) : (file bytes).table = TableFile.read bytes :=
  rfl

/-- The scenario in a file. -/
def scenario : Entry → Except (Failure Float) (Scenario Float)
  | absent cause => .error (.file cause)
  | directory => .error .yaml
  | file bytes => ScenarioFile.read bytes

end Entry

structure Disk where
  /-- The directories below the working directory. -/
  directories : List Path
  files : List (Path × List UInt8)
  /-- What is there but cannot be opened, and why. -/
  barred : List (Path × String) := []
  /-- Where nothing can be written: files that are only for reading, and places in directories to
  which nothing is added. -/
  guarded : List Path := []
deriving DecidableEq, Repr

/-- The names between the slashes of a text, of which the first is on its way. -/
def namesFrom (name : List Char) : List Char → List String
  | [] => [String.ofList name.reverse]
  | c :: rest =>
    if c = '/' then String.ofList name.reverse :: namesFrom [] rest else namesFrom (c :: name) rest

/-- The names between the slashes of a text. -/
def names (text : List Char) : List String :=
  namesFrom [] text

namespace Disk

/-- What stands at a path. -/
def entry (disk : Disk) (path : Path) : Entry :=
  match disk.files.lookup path, disk.barred.lookup path with
  | some bytes, _ => .file bytes
  | none, some cause => .absent cause
  | none, none => if path.isAbove ∨ path ∈ disk.directories then .directory else .missing

/-- Follows names from a directory on: a point stays, two go up, and what is gone through has to be
a directory. A name that is too long leads nowhere. -/
def walk (disk : Disk) (here : Path) : List String → Option Path
  | [] => some here
  | name :: rest =>
    if disk.entry here ≠ .directory ∨ longestName < (Utf8.encode name.toList).length then none
    else if name = "" ∨ name = "." then walk disk here rest
    else if name = ".." then walk disk here.parent rest
    else walk disk (here ++ [name]) rest

/-- Where a text leads as a path. One that starts with a slash starts at the root, and an empty one
leads nowhere. -/
def resolve (disk : Disk) (path : String) : Option Path :=
  let text := path.toList
  if text = [] ∨ longestPath < (Utf8.encode text).length then none
  else walk disk (if text.head? = some '/' then .root else []) (names text)

/-- What a text leads to as a path. Where it leads nowhere, nothing is found, whatever is in the
way. -/
def lookup (disk : Disk) (path : String) : Entry :=
  match disk.resolve path with
  | some place => disk.entry place
  | none => .missing

/-- Makes a file, or empties the one that is there, and writes to it. This fails on anything but a
file, where there is no directory to make the file in, and where nothing can be written. -/
def write (disk : Disk) (path : String) (text : String) : Option Disk := do
  let place ← disk.resolve path
  if (disk.entry place).isReplaceable ∧ place ∉ disk.guarded then
    some { disk with
      files := (place, Utf8.encode text.toList) :: disk.files.filter fun file => file.1 ≠ place }
  else none

end Disk

end Periapsis
