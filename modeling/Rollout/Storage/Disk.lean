import Rollout.Text.Numerals

/-!
# Files

The files that a deployment reads and writes. A path is a text with slashes; what it denotes is
found by walking through its directories, from the working directory or from the root. Writes can
be made to fail, one after the other, so that a deployment can be followed past a failure.
-/

namespace Rollout

/-- Why a file cannot be read or written. -/
inductive IoError where
  | notFound
  | notDirectory
  | isDirectory
  | nameTooLong
  | nulInName
  | invalidUtf8
  | denied
  deriving DecidableEq, Repr

/-- The wording of a file error. -/
def IoError.message : IoError → String
  | .notFound => "No such file or directory (os error 2)"
  | .notDirectory => "Not a directory (os error 20)"
  | .isDirectory => "Is a directory (os error 21)"
  | .nameTooLong => "File name too long (os error 36)"
  | .nulInName => "file name contained an unexpected NUL byte"
  | .invalidUtf8 => "stream did not contain valid UTF-8"
  | .denied => "Permission denied (os error 13)"

/-- What stands at a place. -/
inductive Entry where
  | file (content : List UInt8)
  | directory
  deriving DecidableEq

/-- A place is the list of names that lead to it from the working directory. The places above the
working directory begin with `..` and those of absolute paths with the name of the root
directory. -/
abbrev Place := List String

/-- All files by their places. -/
structure Disk where
  /-- What stands at each place. -/
  entries : Place → Option Entry
  /-- The outcome of the writes to come: a failure, or nothing for a write that works. -/
  faults : List (Option IoError) := []
  /-- How many directories there are above the working directory. -/
  ancestors : Nat := 0

namespace Path

/-- The text of a path relative to a directory. An absolute path stands for itself. -/
def join (directory path : String) : String :=
  if path.toList.head? = some '/' then path
  else if directory = "" then path
  else if directory.toList.getLast? = some '/' then directory ++ path
  else directory ++ "/" ++ path

/-- The names of a path. Between two slashes there may be no name at all. -/
def names (path : String) : List String :=
  (path.toList.splitOn '/').map String.ofList

/-- The place from which a path leads on. -/
def start (path : String) : Place :=
  if path.toList.head? = some '/' then ["/"] else []

/-- The directories that exist in any case: the root, the working directory and all above it. -/
def isStanding (place : Place) : Bool :=
  place == ["/"] || place.all (· == "..")

/-- The place to which a name leads from a directory. An empty name leads nowhere else, and above
the root there is only the root. -/
def follow (place : Place) (name : String) : Place :=
  if name = "" ∨ name = "." then place
  else if name = ".." then
    if place = ["/"] then place
    else if isStanding place then place ++ [".."]
    else place.dropLast
  else place ++ [name]

/-- The name is more than a file system takes. -/
def isTooLong (name : String) : Bool :=
  255 < name.utf8ByteSize

end Path

namespace Disk

/-- No file at all. -/
def empty : Disk where
  entries _ := none

/-- What stands at a place. -/
def entryAt (d : Disk) (place : Place) : Option Entry :=
  if Path.isStanding place then some .directory else d.entries place

/-- Follow one name from a directory. -/
def enter (d : Disk) (place : Place) (name : String) : Except IoError Place :=
  match d.entryAt place with
  | none => .error .notFound
  | some (.file _) => .error .notDirectory
  | some .directory =>
    if Path.isTooLong name then .error .nameTooLong else .ok (Path.follow place name)

/-- Follow names one after the other, if the path that they belong to is one at all. -/
def walk (d : Disk) (path : String) (names : List String) : Except IoError Place :=
  if path.toList.contains '\x00' then .error .nulInName
  else if path = "" then .error .notFound
  else if 4096 ≤ path.utf8ByteSize then .error .nameTooLong
  else names.foldlM d.enter (Path.start path)

/-- The place that a path denotes, whether or not something stands there. -/
def locate (d : Disk) (path : String) : Except IoError Place :=
  d.walk path (Path.names path)

/-- Something stands at the path. -/
def contains (d : Disk) (path : String) : Bool :=
  match d.locate path with
  | .ok place => (d.entryAt place).isSome
  | .error _ => false

/-- The bytes of a file. -/
def read (d : Disk) (path : String) : Except IoError (List UInt8) :=
  (d.locate path).bind fun place =>
    match d.entryAt place with
    | none => .error .notFound
    | some .directory => .error .isDirectory
    | some (.file content) => .ok content

/-- The text of a file, which must be valid UTF-8. -/
def readText (d : Disk) (path : String) : Except IoError String :=
  (d.read path).bind fun content =>
    match ofUtf8? content with
    | some text => .ok text
    | none => .error .invalidUtf8

/-- Let an entry stand at a place. -/
def set (d : Disk) (place : Place) (entry : Option Entry) : Disk :=
  { d with entries := fun other => if other = place then entry else d.entries other }

/-- The place at which a file can be written under a path. A slash at the end of the path asks for
a directory, whatever stands under its last name. -/
def target (d : Disk) (path : String) : Except IoError Place :=
  let named := (((Path.names path).reverse.dropWhile (· == "")).reverse)
  if path.toList.getLast? = some '/' then
    (d.walk path (named.dropLast ++ [""])).bind fun _ => .error .isDirectory
  else
    (d.locate path).bind fun place =>
      if d.entryAt place = some .directory then .error .isDirectory else .ok place

/-- Write a file as a whole. The directory has to exist, and a fault that is due stops the write
before anything is changed. -/
def write (d : Disk) (path : String) (content : List UInt8) : Except IoError Unit × Disk :=
  let after : Disk := { d with faults := d.faults.drop 1 }
  match d.faults.head? with
  | some (some e) => (.error e, after)
  | _ =>
    match d.target path with
    | .error e => (.error e, after)
    | .ok place => (.ok (), after.set place (some (.file content)))

/-- Let a directory stand at a place, unless something stands there. -/
def addDirectory (d : Disk) (place : Place) : Disk :=
  if (d.entryAt place).isNone then d.set place (some .directory) else d

/-- Put an entry at a path together with the directories on the way to it. Only a file can take the
place of a file, and nothing takes the place of a directory. -/
def put (d : Disk) (path : String) (entry : Entry) : Disk :=
  let names := Path.names path
  let (d, parent) := names.dropLast.foldl (fun (d, place) name =>
    (d.addDirectory (Path.follow place name), Path.follow place name)) (d, Path.start path)
  let place := Path.follow parent (names.getLast?.getD "")
  match d.entryAt place, entry with
  | none, _ | some (.file _), .file _ => d.set place (some entry)
  | _, _ => d

/-- Take a file away. -/
def remove (d : Disk) (path : String) : Disk :=
  match d.locate path with
  | .ok place =>
    match d.entryAt place with
    | some (.file _) => d.set place none
    | _ => d
  | .error _ => d

end Disk

end Rollout
