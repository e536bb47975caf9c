import Rollout.Config.Environment
import Rollout.Signing.Key
import Rollout.Text.Numerals
import Rollout.Text.Quoted
import Rollout.Transaction.Run
import Rollout.Url.Reader

/-!
# Configuration

A secret never appears in a message: whatever it is, its text is the same.

The configuration collects all settings of a deployment. A variable that is not set has a default,
and one that is set to nonsense is refused; the first such variable decides the error.
-/

namespace Rollout

/-! ## Secrets -/

/-- A value that must not be shown. -/
structure Secret (α : Type) where
  /-- The value itself. -/
  value : α

/-- The text of every secret. -/
def Secret.text {α : Type} (_ : Secret α) : String := "<redacted>"

instance {α : Type} : ToString (Secret α) := ⟨Secret.text⟩

/-! ## Settings -/

/-- Why there is no configuration. -/
inductive ConfigError where
  /-- The address of the node is no URL; `source` is the variable or the flag that gives it. -/
  | invalidUrl (source : String)
  | invalidNumber (key : String) (refusal : Decimal.Refusal)
  | invalidAmount (key : String)
  | invalidRecipient (text : String)
  deriving DecidableEq

/-- The wording of a configuration error. -/
def ConfigError.message : ConfigError → String
  | .invalidUrl source => s!"Invalid {source}"
  | .invalidNumber key refusal => s!"Invalid {key}: {refusal.message}"
  | .invalidAmount key => s!"Invalid {key}: {detail}"
  | .invalidRecipient text => s!"Invalid address in DEMO_RECIPIENTS '{text}': {detail}"

/-- Why there is no signing key. -/
inductive KeyError where
  | missing
  | invalid
  deriving DecidableEq

/-- The wording of a key error. -/
def KeyError.message : KeyError → String
  | .missing => "DEPLOYER_PRIVATE_KEY required"
  | .invalid => "Invalid private key: " ++ detail

/-- How the network is reached and transactions are signed. -/
structure NetworkConfig where
  rpcUrl : Url
  chainId : UInt64
  privateKey : Option (Secret String)
  gasLimit : UInt64

namespace NetworkConfig

/-- The text of the signing key. -/
def keyText (c : NetworkConfig) : Except KeyError String :=
  match c.privateKey with
  | some secret => .ok secret.value
  | none => .error .missing

/-- The signing key. -/
def signingKey (c : NetworkConfig) : Except KeyError SigningKey :=
  c.keyText.bind fun text =>
    match SigningKey.parse? text with
    | some key => .ok key
    | none => .error .invalid

/-- A description in which the key is not shown. -/
def describe (c : NetworkConfig) : String :=
  let url := Quoted.text c.rpcUrl.text
  let key := (c.privateKey.map fun secret => s!"Some({secret})").getD "None"
  "NetworkConfig \x7b " ++
    s!"rpc_url: {url}, chain_id: {c.chainId}, private_key: {key}, gas_limit: {c.gasLimit}" ++
    " \x7d"

end NetworkConfig

/-- All settings of a deployment. -/
structure Config where
  network : NetworkConfig
  artifactsDir : String
  /-- The manifest to use; without one the built-in manifest is used. -/
  manifest : Option String
  sessionFile : String
  /-- The file to which addresses are exported. -/
  envFile : Option String
  demo : Demo

namespace Config

/-- The node that is reached when no other one is named. -/
def defaultUrl : String := "http://127.0.0.1:7445"

/-- Read a variable that is set; an unset one is missing. -/
def read {α : Type} (env : Environment) (key : String)
    (parse : String → Except ConfigError α) : Except ConfigError (Option α) :=
  match env.text? key with
  | some text => (parse text).map some
  | none => .ok none

/-- The text without blanks around it. -/
def trimmed (text : String) : String :=
  String.ofList (trim text.toList)

/-- A number of 64 bits in a variable. -/
def readNumber (env : Environment) (key : String) : Except ConfigError (Option UInt64) :=
  read env key fun text => (Decimal.readUInt64 (trim text.toList)).mapError (.invalidNumber key)

/-- An amount in a variable. -/
def readAmount (env : Environment) (key : String) : Except ConfigError (Option Uint256) :=
  read env key fun text =>
    match Uint256.parse? (trimmed text) with
    | some v => .ok v
    | none => .error (.invalidAmount key)

/-- The node's address, read from a variable or a flag. -/
def readUrl (source text : String) : Except ConfigError Url :=
  match Url.parse? text with
  | some url => .ok url
  | none => .error (.invalidUrl source)

/-- One recipient. -/
def parseRecipient (text : List Char) : Except ConfigError Address :=
  match FixedBytes.parse? (String.ofList text) with
  | some a => .ok a
  | none => .error (.invalidRecipient (String.ofList text))

/-- Addresses set apart by commas; blanks around them and empty pieces do not count. -/
def parseRecipients (list : String) : Except ConfigError (List Address) :=
  (((list.toList.splitOn ',').map trim).filter (· ≠ [])).mapM parseRecipient

/-- The signing key, unless it is blank. -/
def readKey (env : Environment) : Option (Secret String) :=
  ((env.text? "DEPLOYER_PRIVATE_KEY").filter fun text => trim text.toList ≠ []).map Secret.mk

/-- The settings of the network. -/
def readNetwork (env : Environment) : Except ConfigError NetworkConfig := do
  let rpcUrl ← readUrl "DEPLOYER_RPC_URL" ((env.text? "DEPLOYER_RPC_URL").getD defaultUrl)
  let chainId ← readNumber env "DEPLOYER_CHAIN_ID"
  let gasLimit ← readNumber env "DEPLOYER_GAS_LIMIT"
  return {
    rpcUrl
    chainId := chainId.getD 214
    privateKey := readKey env
    gasLimit := gasLimit.getD 4500000 }

/-- The settings of the demonstration. -/
def readDemo (env : Environment) : Except ConfigError Demo := do
  let defaults : Demo := {}
  let recipients ← read env "DEMO_RECIPIENTS" parseRecipients
  let supply ← readAmount env "DEMO_TOKEN_SUPPLY"
  let approveAmount ← readAmount env "DEMO_APPROVE_AMOUNT"
  let depositAmount ← readAmount env "DEMO_DEPOSIT_AMOUNT"
  return {
    token := {
      name := (env.text? "DEMO_TOKEN_NAME").getD defaults.token.name
      symbol := (env.text? "DEMO_TOKEN_SYMBOL").getD defaults.token.symbol
      initialSupply := supply.getD defaults.token.initialSupply }
    approveAmount := approveAmount.getD defaults.approveAmount
    depositAmount := depositAmount.getD defaults.depositAmount
    recipients := recipients.getD defaults.recipients }

/-- The configuration of an environment. -/
def ofEnvironment (env : Environment) : Except ConfigError Config := do
  let network ← readNetwork env
  let demo ← readDemo env
  return {
    network
    artifactsDir := (env.text? "DEPLOYER_ARTIFACTS_DIR").getD "build/contracts"
    manifest := env.text? "DEPLOYER_MANIFEST"
    sessionFile := (env.text? "DEPLOYER_SESSION_FILE").getD "deployments.json"
    envFile := env.text? "DEPLOYER_ENV_FILE"
    demo }

end Config

end Rollout
