import Rollout.Abi.Interface
import Rollout.Bytecode.Template
import Rollout.Json.Document
import Rollout.Json.Reader
import Rollout.Storage.Disk
import Rollout.Text.Quoted

/-!
# Artifacts

An artifact is a compiled unit: its names, its interface and the template of its code. The code is
either a plain text or an object that lists where libraries are linked.

A registry looks artifacts up by name, either among documents at hand or in a build directory. A
build directory keeps an artifact in a file of its name or in a directory named for its source.
-/

namespace Rollout

/-! ## Compiled units -/

/-- What is wrong with the document of an artifact. -/
inductive ArtifactFault where
  /-- The file holds no sound document. -/
  | notADocument
  | invalidInterface
  | noBytecode
  | noBytecodeObject
  | referencesNotAnObject
  | referenceEntryNotAnObject
  | positionsNotAList (library : String)
  | badPosition (library : String)
  | emptyBytecode
  | unexpectedCharacter (character : Char)
  deriving DecidableEq

/-- The wording of a fault. -/
def ArtifactFault.message : ArtifactFault → String
  | .notADocument => detail
  | .invalidInterface => "invalid abi: " ++ detail
  | .noBytecode => "bytecode missing"
  | .noBytecodeObject => "bytecode.object missing"
  | .referencesNotAnObject => "linkReferences is not an object"
  | .referenceEntryNotAnObject => "linkReferences entry is not an object"
  | .positionsNotAList library => s!"positions for {library} are not a list"
  | .badPosition library => s!"bad link position for {library}"
  | .emptyBytecode => "empty bytecode (abstract contract or interface?)"
  | .unexpectedCharacter character =>
    let quoted := Quoted.char character
    s!"unexpected character {quoted} in bytecode"

/-- Why there is no artifact of a name. -/
inductive ArtifactError where
  | notFound (name directory : String)
  | unreadable (path : String) (cause : IoError)
  | malformed (name : String) (fault : ArtifactFault)
  deriving DecidableEq

/-- The wording of an artifact error. -/
def ArtifactError.message : ArtifactError → String
  | .notFound name directory => s!"no artifact for '{name}' under {directory}"
  | .unreadable path cause => s!"failed to read artifact {path}: {cause.message}"
  | .malformed name fault => s!"malformed artifact '{name}': {fault.message}"

/-- A compiled unit. -/
structure Artifact where
  contractName : String
  /-- The source that the unit was compiled from, when it is known. -/
  sourceName : Option String
  interface : Interface
  bytecode : Template

namespace Artifact

/-- A character that code and its placeholders are made of. -/
def isCodeCharacter (c : Char) : Bool :=
  c.isAlphanum || c == '_' || c == '$'

/-- The start of one position. -/
def start? (library : String) (position : Json) : Except ArtifactFault UInt64 :=
  match (position.get? "start").bind Json.uint64? with
  | some start => .ok start
  | none => .error (.badPosition library)

/-- The positions of one library. -/
def reference (library : String) (positions : Json) : Except ArtifactFault LinkReference :=
  match positions with
  | .array positions => (positions.mapM (start? library)).map (⟨library, ·⟩)
  | _ => .error (.positionsNotAList library)

/-- The libraries of one source file, sorted by name. -/
def fileReferences (libraries : Json) : Except ArtifactFault (List LinkReference) :=
  match libraries with
  | .object libraries =>
    (Json.sortedMembers libraries).mapM fun member => reference member.1 member.2
  | _ => .error .referenceEntryNotAnObject

/-- All positions, the source files sorted by name. -/
def references (files : Json) : Except ArtifactFault (List LinkReference) :=
  match files with
  | .object files =>
    ((Json.sortedMembers files).mapM fun member => fileReferences member.2).map List.flatten
  | _ => .error .referencesNotAnObject

/-- The template of a document's code. -/
def template (document : Json) : Except ArtifactFault Template :=
  match document.get? "bytecode" with
  | some (.string text) => .ok (Template.ofText text.toList [])
  | some (.object code) =>
    match (Json.object code).get? "object" with
    | some (.string text) =>
      match (Json.object code).get? "linkReferences" with
      | some files => (references files).map (Template.ofText text.toList)
      | none => .ok (Template.ofText text.toList [])
    | _ => .error .noBytecodeObject
  | _ => .error .noBytecode

/-- The template, if its text is not empty and holds only characters of code. -/
def checkTemplate (t : Template) : Except ArtifactFault Template :=
  if t.text = [] then .error .emptyBytecode
  else
    match t.text.find? fun c => !isCodeCharacter c with
    | some c => .error (.unexpectedCharacter c)
    | none => .ok t

/-- The interface of a document. A document may have none. -/
def interfaceOf (document : Json) : Except ArtifactFault Interface :=
  match document.get? "abi" with
  | none => .ok .empty
  | some abi =>
    match Interface.ofJson? abi with
    | some interface => .ok interface
    | none => .error .invalidInterface

/-- The source name of a document, in either of its two places. -/
def sourceNameOf (document : Json) : Option String :=
  (document.get? "sourceName" >>= Json.string?) <|>
    (document.get? "ast" >>= (·.get? "absolutePath") >>= Json.string?)

/-- Read the document of an artifact. -/
def read (name : String) (document : Json) : Except ArtifactFault Artifact := do
  let interface ← interfaceOf document
  let template ← template document
  let bytecode ← checkTemplate template
  let contractName := ((document.get? "contractName").bind Json.string?).getD name
  return { contractName, sourceName := sourceNameOf document, interface, bytecode }

/-- The artifact of a document under the name by which it is looked up. -/
def ofJson (name : String) (document : Json) : Except ArtifactError Artifact :=
  (read name document).mapError (.malformed name)

end Artifact

/-! ## Registries -/

/-- A way to look artifacts up. -/
abbrev Registry := String → Except ArtifactError Artifact

namespace Registry

/-- The registry of artifacts at hand. -/
def ofList (artifacts : List (String × Artifact)) : Registry := fun name =>
  match artifacts.lookup name with
  | some artifact => .ok artifact
  | none => .error (.notFound name "<memory>")

/-- The registry of documents at hand, which are read in the order of their names. -/
def ofDocuments (documents : List (String × Json)) : Except ArtifactError Registry :=
  ((Json.sortedMembers documents).mapM fun member =>
    (Artifact.ofJson member.1 member.2).map (member.1, ·)).map ofList

/-- The files that may hold an artifact, the first one first. -/
def candidates (directory name : String) : List String :=
  [Path.join directory (name ++ ".json"),
    Path.join (Path.join directory (name ++ ".sol")) (name ++ ".json")]

/-- Read an artifact from a file, which has to hold a sound document. -/
def readFile (disk : Disk) (path name : String) : Except ArtifactError Artifact :=
  match disk.readText path with
  | .error cause => .error (.unreadable path cause)
  | .ok text =>
    match (Json.parse? text).filter Json.isSound with
    | some document => Artifact.ofJson name document
    | none => .error (.malformed name .notADocument)

/-- The registry of a build directory. -/
def ofDirectory (disk : Disk) (directory : String) : Registry := fun name =>
  match (candidates directory name).find? disk.contains with
  | some path => readFile disk path name
  | none => .error (.notFound name directory)

end Registry

end Rollout
