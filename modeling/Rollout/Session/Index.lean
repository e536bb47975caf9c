import Rollout.Session.Basic

/-!
# Indexed sessions

A session can keep an index of its handles, so that a unit is found without a search. The index
is a second record of what the handles say, and each operation has to carry both along. A position
that leads to no handle is a fault, which ends the program.
-/

namespace Rollout

/-- A session with an index of its handles. -/
structure IndexedSession extends Session where
  /-- The position of the handle of each unit. -/
  index : String → Option Nat

namespace IndexedSession

/-- A look-up that the program does not survive. -/
inductive Fault where
  /-- The index has no position for a unit that must be there. -/
  | missing (name : String)
  /-- The index has a position behind the last handle. -/
  | outOfBounds (position count : Nat)
  deriving DecidableEq

/-- A session without any handle that writes no file. -/
def new (chainId : UInt64) : IndexedSession :=
  { Session.new chainId with index := fun _ => none }

/-- Write a file from now on. -/
def persistTo (s : IndexedSession) (path : String) : IndexedSession :=
  { s with file? := some path }

/-- The unit has been recorded. -/
def contains (s : IndexedSession) (name : String) : Bool :=
  (s.index name).isSome

/-- The handle at a position. -/
def handleAt (s : IndexedSession) (position : Nat) : Except Fault Handle :=
  match s.handles[position]? with
  | some handle => .ok handle
  | none => .error (.outOfBounds position s.handles.length)

/-- The handle of a unit, if there is one. -/
def get? (s : IndexedSession) (name : String) : Except Fault (Option Handle) :=
  match s.index name with
  | some position => (s.handleAt position).map some
  | none => .ok none

/-- The handle of a unit that must be there. -/
def get (s : IndexedSession) (name : String) : Except Fault Handle :=
  match s.index name with
  | some position => s.handleAt position
  | none => .error (.missing name)

/-- The address of `dependency`, which `unit` needs. -/
def resolve (s : IndexedSession) (unit dependency : String) :
    Except Fault (Except LinkError Address) :=
  (s.get? dependency).map fun
    | some handle => .ok handle.address
    | none => .error (.unresolved unit dependency)

/-- Append a handle and note its position; a unit that is present is refused. -/
def insert (s : IndexedSession) (handle : Handle) : Except SessionError IndexedSession :=
  if s.contains handle.name then .error (.alreadyRecorded handle.name)
  else .ok { s with
    handles := s.handles ++ [handle]
    index := fun name => if name = handle.name then some s.handles.length else s.index name }

/-- The session in the text of a file at `path`, for the chain that is expected. -/
def ofText (path text : String) (chainId : UInt64) : Except SessionError IndexedSession :=
  match (Json.parseAs? Session.shape text).bind Session.contents? with
  | none => .error (.malformed path)
  | some (found, handles) =>
    if found = chainId then
      (handles.foldlM insert (new chainId)).map (·.persistTo path)
    else .error (.chainMismatch path chainId found)

/-- Load a session file. -/
def load (disk : Disk) (path : String) (chainId : UInt64) : Except SessionError IndexedSession :=
  match disk.readText path with
  | .error cause => .error (.io path cause)
  | .ok text => ofText path text chainId

/-- Load a session file if there is one, and start a session that writes it otherwise. -/
def openOrNew (disk : Disk) (path : String) (chainId : UInt64) :
    Except SessionError IndexedSession :=
  if disk.contains path then load disk path chainId else .ok ((new chainId).persistTo path)

/-- What recording a unit leaves behind. -/
structure Recorded where
  session : IndexedSession
  disk : Disk
  /-- The handle as it is found in the session. -/
  outcome : Except Fault (Except SessionError Handle)

/-- Record a unit, write the session's file and look the handle up. A handle whose write fails stays
in the session. -/
def record (s : IndexedSession) (disk : Disk) (handle : Handle) : Recorded :=
  match s.insert handle with
  | .error e => ⟨s, disk, .ok (.error e)⟩
  | .ok s =>
    match s.flush disk with
    | (.error e, disk) => ⟨s, disk, .ok (.error e)⟩
    | (.ok (), disk) => ⟨s, disk, (s.get handle.name).map .ok⟩

end IndexedSession

end Rollout
