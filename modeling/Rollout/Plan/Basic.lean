import Rollout.Artifact.Basic
import Rollout.Failure
import Rollout.Graph.Basic

/-!
# Deployment plans

A plan pairs the units of a manifest, in deployment order, with their artifacts. It exists only if
the manifest can be ordered and every artifact can be loaded, so nothing is deployed for a manifest
that has a fault.

The units of a plan that a session does not hold are deployed one after the other. The code of a
unit is its linked template followed by its constructor arguments, both with addresses that the
session holds at that moment. The first failure ends the execution, and what was recorded before it
stays recorded.
-/

namespace Rollout

/-! ## Building a plan -/

/-- A unit and its compiled artifact. -/
structure PlannedUnit where
  declaration : Declaration
  artifact : Artifact

namespace PlannedUnit

/-- The name of the unit. -/
def name (u : PlannedUnit) : String :=
  u.declaration.name

end PlannedUnit

/-- The units to deploy, in order. -/
structure Plan where
  units : List PlannedUnit

namespace Plan

/-- Pair a unit with its artifact. -/
def loadUnit (registry : Registry) (d : Declaration) : Except Failure PlannedUnit :=
  ((registry d.artifactName).mapError .artifact).map (⟨d, ·⟩)

/-- The plan of a manifest. -/
def build (m : Manifest) (registry : Registry) : Except Failure Plan := do
  let graph ← (Graph.ofManifest m).mapError .graph
  let order ← graph.order.mapError .graph
  let units ← order.mapM (loadUnit registry)
  return ⟨units⟩

/-- The names of the units, in order. -/
def order (p : Plan) : List String :=
  p.units.map (·.name)

/-- A unit of the plan. -/
def unit? (p : Plan) (name : String) : Option PlannedUnit :=
  p.units.find? (·.name == name)

/-- The source of a unit of the plan, when it is known. -/
def sourceOf (p : Plan) (name : String) : Option String :=
  (p.unit? name).bind (·.artifact.sourceName)

end Plan

/-! ## Executing a plan -/

/-- What executing a plan leaves behind. -/
structure Execution where
  /-- The codes that were submitted, in order. -/
  submitted : List (List UInt8)
  session : Session
  disk : Disk
  /-- The handles of the units deployed now, or the failure that ended the execution. -/
  outcome : Except Failure (List Handle)

namespace Execution

/-- The execution in which one more unit was deployed first. -/
def after (code : List UInt8) (handle : Handle) (e : Execution) : Execution :=
  { e with
    submitted := code :: e.submitted
    outcome := e.outcome.map (handle :: ·) }

end Execution

namespace Plan

/-- Link one library with the address that the session holds for it. -/
def linkLibrary (p : Plan) (session : Session) (unit : String) (t : Template) (library : String) :
    Except Failure Template := do
  let address ← (session.resolve unit library).mapError .link
  match t.link unit library (p.sourceOf library) address with
  | (.ok _, t) => .ok t
  | (.error e, _) => .error (.link e)

/-- The code of a unit with all its libraries linked, in their order. -/
def linkedCode (p : Plan) (session : Session) (u : PlannedUnit) : Except Failure (List UInt8) := do
  let t ← u.declaration.links.foldlM (p.linkLibrary session u.name) u.artifact.bytecode
  (t.toBytes u.name).mapError .link

/-- The encoded constructor arguments of a unit. -/
def encodedArguments (session : Session) (sender : Address) (u : PlannedUnit) :
    Except Failure (List UInt8) := do
  let arguments ← (Argument.resolveAll sender (session.resolve u.name) u.declaration.args).mapError
    .link
  (u.artifact.interface.encodeConstructor arguments).mapError fun cause =>
    .deployment (.encoding u.name cause)

/-- The code that creates a unit. -/
def creationCode (p : Plan) (session : Session) (sender : Address) (u : PlannedUnit) :
    Except Failure (List UInt8) := do
  let code ← p.linkedCode session u
  let arguments ← encodedArguments session sender u
  return code ++ arguments

/-- The handle of a unit, if the answer to its deployment is a success with an address. -/
def settle (unit : String) (answer : Answer) : Except DeploymentError Handle :=
  match answer with
  | .error causes => .error (.submission unit causes)
  | .ok receipt =>
    if receipt.success then
      match receipt.contractAddress with
      | some address => .ok ⟨unit, address, some receipt.txHash⟩
      | none => .error (.missingAddress unit receipt.txHash)
    else .error (.reverted unit receipt.txHash)

/-- Deploy those of the given units that the session does not hold. -/
def executeUnits (p : Plan) :
    List PlannedUnit → Session → Disk → Submitter → Execution
  | [], session, disk, _ => ⟨[], session, disk, .ok []⟩
  | u :: units, session, disk, submitter =>
    if session.contains u.name then p.executeUnits units session disk submitter
    else
      match p.creationCode session submitter.sender u with
      | .error failure => ⟨[], session, disk, .error failure⟩
      | .ok code =>
        match settle u.name submitter.next with
        | .error e => ⟨[code], session, disk, .error (.deployment e)⟩
        | .ok handle =>
          let recorded := session.record disk handle
          match recorded.outcome with
          | .error e => ⟨[code], recorded.session, recorded.disk, .error (.session e)⟩
          | .ok handle =>
            (p.executeUnits units recorded.session recorded.disk submitter.rest).after code handle

/-- Deploy the units of the plan that the session does not hold. -/
def execute (p : Plan) (session : Session) (disk : Disk) (submitter : Submitter) : Execution :=
  p.executeUnits p.units session disk submitter

end Plan

end Rollout
