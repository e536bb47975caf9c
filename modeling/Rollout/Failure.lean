import Rollout.Abi.Call
import Rollout.Artifact.Basic
import Rollout.Graph.Basic
import Rollout.Network
import Rollout.Session.Basic

/-!
# Failures

A failure stops a deployment or a run of transactions where it happens. Nothing is tried again,
so a failure names the unit or the step and its cause.
-/

namespace Rollout

/-- Why the deployment of a unit failed. -/
inductive DeploymentError where
  | submission (unit : String) (causes : List String)
  | reverted (unit : String) (txHash : Hash)
  | missingAddress (unit : String) (txHash : Hash)
  | encoding (unit : String) (cause : EncodingError)

namespace DeploymentError

/-- The unit whose deployment failed. -/
def unit : DeploymentError → String
  | .submission unit _ | .reverted unit _ | .missingAddress unit _ | .encoding unit _ => unit

/-- The wording of a deployment error. -/
def message : DeploymentError → String
  | .submission unit causes =>
    s!"deployment of '{unit}' could not be submitted: {joinCauses causes}"
  | .reverted unit txHash => s!"deployment of '{unit}' reverted (tx {txHash})"
  | .missingAddress unit txHash =>
    s!"deployment of '{unit}' (tx {txHash}) produced no contract address"
  | .encoding unit cause =>
    s!"constructor arguments for '{unit}' could not be encoded: {cause.message}"

end DeploymentError

/-- Why a step of a transaction run failed. -/
inductive TransactionError where
  | submission (step : String) (causes : List String)
  | reverted (step : String) (txHash : Hash)
  | encoding (step : String) (cause : EncodingError)

namespace TransactionError

/-- The step that failed. -/
def step : TransactionError → String
  | .submission step _ | .reverted step _ | .encoding step _ => step

/-- The wording of a transaction error. -/
def message : TransactionError → String
  | .submission step causes => s!"step '{step}' could not be submitted: {joinCauses causes}"
  | .reverted step txHash => s!"step '{step}' failed to execute (tx {txHash})"
  | .encoding step cause =>
    s!"call data for step '{step}' could not be encoded: {cause.message}"

end TransactionError

/-- Why a plan could not be built, or why it or a run of transactions stopped. -/
inductive Failure where
  | graph (error : GraphError)
  | deployment (error : DeploymentError)
  | link (error : LinkError)
  | transaction (error : TransactionError)
  | artifact (error : ArtifactError)
  | session (error : SessionError)

/-- The wording of a failure. -/
def Failure.message : Failure → String
  | .graph error => error.message
  | .deployment error => error.message
  | .link error => error.message
  | .transaction error => error.message
  | .artifact error => error.message
  | .session error => error.message

end Rollout
