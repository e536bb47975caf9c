import Rollout.Json.Reader
import Rollout.Manifest.Argument
import Rollout.Storage.Disk

/-!
# Manifests

A manifest declares the units of a deployment in a fixed order. A unit depends on the libraries
that are linked into it and on the units that its constructor arguments name.

The manifest that is used when no other one is named: the handler with its libraries, the light
client, the demonstration token and the token bank.

A manifest is read from a file that holds one JSON document.
-/

namespace Rollout

/-! ## Declared units -/

/-- The declaration of one contract or library. -/
structure Declaration where
  /-- The name of the unit in the manifest. -/
  name : String
  /-- The artifact to load, when its name is another one. -/
  artifact : Option String := none
  /-- The libraries whose addresses are linked into the code, in order. -/
  links : List String := []
  /-- The constructor arguments, in order. -/
  args : List Argument := []
  deriving DecidableEq

namespace Declaration

/-- The name of the artifact to load. -/
def artifactName (d : Declaration) : String :=
  d.artifact.getD d.name

/-- The units that the constructor arguments name. -/
def referencedUnits (d : Declaration) : List String :=
  d.args.filterMap Argument.unit?

/-- The units that must have an address before this one is deployed. -/
def dependencies (d : Declaration) : List String :=
  d.links ++ d.referencedUnits

/-- The shape of a declaration. -/
def shape : Json.Shape :=
  .record [("name", .any), ("artifact", .any), ("links", .any), ("args", .list Argument.shape)]

/-- Read a declaration; only the name is required. -/
def ofJson? (j : Json) : Option Declaration :=
  match j.record? ["name", "artifact", "links", "args"] with
  | some [some name, artifact, links, args] => do
    let name ← name.string?
    let artifact ← Json.orNull Json.string? artifact
    let links ← Json.orMissing [] (Json.list? Json.string?) links
    let args ← Json.orMissing [] (Json.list? Argument.ofJson?) args
    return { name, artifact, links, args }
  | _ => none

/-- The written form of a declaration leaves out what is empty. -/
def toJson (d : Declaration) : Json :=
  .object <|
    [("name", .string d.name)] ++
    (d.artifact.map fun artifact => ("artifact", Json.string artifact)).toList ++
    (if d.links = [] then [] else [("links", .array (d.links.map .string))]) ++
    (if d.args = [] then [] else [("args", .array (d.args.map Argument.toJson))])

end Declaration

/-- How an address reaches the unit that depends on it. -/
inductive EdgeKind where
  /-- It is linked into the code. -/
  | link
  /-- It is a constructor argument. -/
  | constructorArgument
  deriving DecidableEq, Repr

/-- The name of a kind of edge. -/
def EdgeKind.name : EdgeKind → String
  | .link => "Link"
  | .constructorArgument => "ConstructorArg"

/-- `dependency` has to be deployed before `dependent`. -/
structure Edge where
  dependency : String
  dependent : String
  kind : EdgeKind
  deriving DecidableEq

/-- The units of one deployment in the order of their declaration. -/
structure Manifest where
  units : List Declaration
  deriving DecidableEq

namespace Manifest

/-- The declaration of a unit. -/
def unit? (m : Manifest) (name : String) : Option Declaration :=
  m.units.find? (·.name == name)

/-- The edges that end at one unit, its links first. -/
def edgesOf (d : Declaration) : List Edge :=
  d.links.map (⟨·, d.name, .link⟩) ++ d.referencedUnits.map (⟨·, d.name, .constructorArgument⟩)

/-- All edges, in the order of declaration. -/
def edges (m : Manifest) : List Edge :=
  m.units.flatMap edgesOf

/-- The shape of a manifest. -/
def shape : Json.Shape := .record [("units", .list Declaration.shape)]

/-- Read a manifest. -/
def ofJson? (j : Json) : Option Manifest :=
  match j.record? ["units"] with
  | some [some units] => (units.list? Declaration.ofJson?).map Manifest.mk
  | _ => none

/-- The written form of a manifest. -/
def toJson (m : Manifest) : Json :=
  .object [("units", .array (m.units.map Declaration.toJson))]

end Manifest

/-! ## The bank stack -/

/-- The demonstration token. -/
structure Token where
  name : String := "simple"
  symbol : String := "simple"
  initialSupply : Uint256 := 1000000
  deriving DecidableEq

/-- The unit that holds deposits. -/
def bankUnit : String := "ICS20Bank"

/-- The unit of the demonstration token. -/
def tokenUnit : String := "SimpleToken"

/-- The built-in manifest for a token. -/
def Manifest.bankStack (token : Token) : Manifest where
  units := [
    { name := "IBCIdentifier" },
    { name := "IBCMsgs" },
    { name := "IBCClient", links := ["IBCMsgs"] },
    { name := "IBCConnection", links := ["IBCMsgs", "IBCClient"] },
    { name := "IBCChannel", links := ["IBCMsgs", "IBCClient", "IBCConnection"] },
    { name := "Identifier" },
    { name := "Bytes" },
    { name := "TendermintLightClient",
      links := ["IBCIdentifier", "IBCMsgs", "Identifier", "Bytes"] },
    { name := "IBCHost", links := ["IBCIdentifier"] },
    { name := "IBCHandler",
      links := ["IBCIdentifier", "IBCMsgs", "IBCClient", "IBCConnection", "IBCChannel"],
      args := [.unit "IBCHost"] },
    { name := tokenUnit,
      args := [.string token.name, .string token.symbol, .uint token.initialSupply] },
    { name := bankUnit },
    { name := "ICS20TransferBank",
      args := [.unit "IBCHost", .unit "IBCHandler", .unit bankUnit] }]

/-! ## Manifest files -/

/-- Why a manifest cannot be read. -/
inductive ManifestError where
  | unreadable (path : String)
  | malformed (path : String)
  deriving DecidableEq

/-- The wording of a manifest error. -/
def ManifestError.message : ManifestError → String
  | .unreadable path => s!"Failed to read manifest {path}"
  | .malformed path => s!"Failed to parse manifest {path}"

namespace Manifest

/-- Read the text of a manifest. -/
def parse? (text : String) : Option Manifest :=
  (Json.parseAs? shape text).bind ofJson?

/-- Read a manifest file. -/
def ofFile (disk : Disk) (path : String) : Except ManifestError Manifest :=
  match disk.readText path with
  | .error _ => .error (.unreadable path)
  | .ok text =>
    match parse? text with
    | some manifest => .ok manifest
    | none => .error (.malformed path)

end Manifest

end Rollout
