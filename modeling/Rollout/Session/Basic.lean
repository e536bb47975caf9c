import Rollout.Bytecode.Template
import Rollout.Json.Printer
import Rollout.Json.Reader
import Rollout.Manifest.Argument
import Rollout.Storage.Disk
import Rollout.Text.Quoted

/-!
# Sessions and their files

A session remembers what has been deployed on one chain. Every unit is recorded once, in the order
of deployment, and its handle never changes.

A session is kept in a file of one JSON document, which is written as a whole after every recorded
unit. A file can be loaded again only for the chain that it was written for.

The addresses of a session can be exported as settings, one line for each unit. The key of a unit
is its name in capitals, with an underscore where a new word begins.
-/

namespace Rollout

/-! ## Handles and sessions -/

/-- A deployed unit. -/
structure Handle where
  name : String
  address : Address
  txHash : Option Hash
  deriving DecidableEq

/-- The deployed units of one chain. -/
structure Session where
  chainId : UInt64
  /-- The handles in the order of deployment. -/
  handles : List Handle
  /-- The file that is written after every recorded unit, if there is one. -/
  file? : Option String
  deriving DecidableEq

/-- Why a session cannot be used. -/
inductive SessionError where
  | alreadyRecorded (unit : String)
  | io (path : String) (cause : IoError)
  | malformed (path : String)
  | chainMismatch (path : String) (expected found : UInt64)
  deriving DecidableEq

namespace Session

/-- A session without any handle that writes no file. -/
def new (chainId : UInt64) : Session :=
  ⟨chainId, [], none⟩

/-- Write a file from now on. -/
def persistTo (s : Session) (path : String) : Session :=
  { s with file? := some path }

/-- The handle of a unit. -/
def get? (s : Session) (name : String) : Option Handle :=
  s.handles.find? (·.name == name)

/-- The unit has been recorded. -/
def contains (s : Session) (name : String) : Bool :=
  s.handles.any (·.name == name)

/-- The address of `dependency`, which `unit` needs. -/
def resolve (s : Session) (unit dependency : String) : Except LinkError Address :=
  match s.get? dependency with
  | some handle => .ok handle.address
  | none => .error (.unresolved unit dependency)

/-- Append a handle; a unit that is present is refused. -/
def insert (s : Session) (handle : Handle) : Except SessionError Session :=
  if s.contains handle.name then .error (.alreadyRecorded handle.name)
  else .ok { s with handles := s.handles ++ [handle] }

end Session

/-! ## Session files -/

/-- The wording of a session error. -/
def SessionError.message : SessionError → String
  | .alreadyRecorded unit => s!"unit '{unit}' already has a handle in this session"
  | .io path cause => s!"session file {path}: {cause.message}"
  | .malformed path => s!"session file {path} is malformed: {detail}"
  | .chainMismatch path expected found =>
    s!"session file {path} belongs to chain {found}, expected {expected}"

namespace Handle

/-- The written form of a handle; a missing hash is left out. -/
def toJson (h : Handle) : Json :=
  .object ([("name", .string h.name), ("address", .string h.address.text)] ++
    (h.txHash.map fun hash => ("tx_hash", Json.string hash.text)).toList)

/-- The shape of a handle. -/
def shape : Json.Shape :=
  .record [("name", .any), ("address", .bytes 20), ("tx_hash", .bytes 32)]

/-- Read a handle. -/
def ofJson? (j : Json) : Option Handle :=
  match j.record? ["name", "address", "tx_hash"] with
  | some [some name, some address, txHash] => do
    let name ← name.string?
    let address ← FixedBytes.ofJson? address
    let txHash ← Json.orNull FixedBytes.ofJson? txHash
    return { name, address, txHash }
  | _ => none

end Handle

namespace Session

/-- The written form of a session. -/
def toJson (s : Session) : Json :=
  .object [("chain_id", .ofNat s.chainId.toNat),
    ("contracts", .array (s.handles.map Handle.toJson))]

/-- The shape of a session. -/
def shape : Json.Shape := .record [("chain_id", .any), ("contracts", .list Handle.shape)]

/-- The chain and the handles of a document. -/
def contents? (j : Json) : Option (UInt64 × List Handle) :=
  match j.record? ["chain_id", "contracts"] with
  | some [some chainId, some contracts] => do
    let chainId ← chainId.uint64?
    let handles ← contracts.list? Handle.ofJson?
    return (chainId, handles)
  | _ => none

/-- The text of a session's file. -/
def fileText (s : Session) : String :=
  s.toJson.pretty

/-- The session in the text of a file at `path`, for the chain that is expected. -/
def ofText (path text : String) (chainId : UInt64) : Except SessionError Session :=
  match (Json.parseAs? shape text).bind contents? with
  | none => .error (.malformed path)
  | some (found, handles) =>
    if found = chainId then
      (handles.foldlM insert (new chainId)).map (·.persistTo path)
    else .error (.chainMismatch path chainId found)

/-- Load a session file. -/
def load (disk : Disk) (path : String) (chainId : UInt64) : Except SessionError Session :=
  match disk.readText path with
  | .error cause => .error (.io path cause)
  | .ok text => ofText path text chainId

/-- Load a session file if there is one, and start a session that writes it otherwise. -/
def openOrNew (disk : Disk) (path : String) (chainId : UInt64) : Except SessionError Session :=
  if disk.contains path then load disk path chainId else .ok ((new chainId).persistTo path)

/-- Write a text to a file on behalf of a session. -/
def writeText (disk : Disk) (path text : String) : Except SessionError Unit × Disk :=
  let (outcome, disk) := disk.write path (utf8 text.toList)
  (outcome.mapError (.io path), disk)

/-- Write the session to a file. -/
def save (s : Session) (disk : Disk) (path : String) : Except SessionError Unit × Disk :=
  writeText disk path s.fileText

/-- Write the session to its own file, if it has one. -/
def flush (s : Session) (disk : Disk) : Except SessionError Unit × Disk :=
  match s.file? with
  | some path => s.save disk path
  | none => (.ok (), disk)

/-- What recording a unit leaves behind. -/
structure Recorded where
  session : Session
  disk : Disk
  outcome : Except SessionError Handle

/-- Record a unit and write the session's file. A handle whose write fails stays in the session. -/
def record (s : Session) (disk : Disk) (handle : Handle) : Recorded :=
  match s.insert handle with
  | .error e => ⟨s, disk, .error e⟩
  | .ok s =>
    let (outcome, disk) := s.flush disk
    ⟨s, disk, outcome.map fun _ => handle⟩

end Session

end Rollout

namespace Rollout.Session

/-! ## Exported addresses -/

/-- A capital begins a word after a small letter or a digit, and after another capital when a
small letter follows. -/
def beginsWord (previous : Option Char) (c : Char) (next : Option Char) : Bool :=
  c.isUpper && previous.any fun p =>
    p.isLower || p.isDigit || (p.isUpper && next.any Char.isLower)

/-- The key characters of the rest of a name. -/
def keyFrom (previous : Option Char) : List Char → List Char
  | [] => []
  | c :: rest =>
    (if beginsWord previous c rest.head? then ['_', c.toUpper] else [c.toUpper]) ++
      keyFrom (some c) rest

/-- The key of a unit. -/
def envKey (name : String) : String :=
  String.ofList (keyFrom none name.toList)

/-- The line of one unit. -/
def envLine (handle : Handle) : String :=
  let key := envKey handle.name
  s!"{key}_ADDRESS={handle.address.checksum}\n"

/-- The lines of the chain and of all units. -/
def envText (s : Session) : String :=
  s!"CHAIN_ID={s.chainId}\n" ++ String.join (s.handles.map envLine)

/-- Write the addresses to a file. -/
def exportEnv (s : Session) (disk : Disk) (path : String) : Except SessionError Unit × Disk :=
  writeText disk path s.envText

end Rollout.Session
