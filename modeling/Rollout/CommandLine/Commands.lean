import Rollout.CommandLine.Arguments
import Rollout.Config.Environment
import Rollout.Manifest.Basic
import Rollout.Plan.Basic
import Rollout.Session.Basic
import Rollout.Transaction.Run

/-!
# Commands

A command reads and writes files, asks the network questions and prints lines. It ends at its first
failure, and what it did before stays done.
-/

namespace Rollout

/-! ## Effects -/

/-- What a command has left behind so far. -/
structure World where
  disk : Disk
  /-- The questions to the network, in order. -/
  asked : List Question
  /-- The printed lines, in order. -/
  printed : List String

/-- The world before a command: nothing is asked or printed. -/
def World.before (disk : Disk) : World :=
  ⟨disk, [], []⟩

/-- What a part of a command does. It ends with a result, or with the message of the failure that
ends the command. -/
structure Effect (α : Type) where
  run : World → Except String α × World

instance : Monad Effect where
  pure a := ⟨fun w => (.ok a, w)⟩
  bind x f := ⟨fun w =>
    match x.run w with
    | (.ok a, w) => (f a).run w
    | (.error message, w) => (.error message, w)⟩

namespace Effect

variable {ε α : Type}

/-- Continue with a result, or fail with the message of its error. -/
def orFail (message : ε → String) (e : Except ε α) : Effect α where
  run w := (e.mapError message, w)

/-- Continue with what the files give. -/
def reading (message : ε → String) (read : Disk → Except ε α) : Effect α where
  run w := ((read w.disk).mapError message, w)

/-- Write to the files. -/
def writing (message : ε → String) (write : Disk → Except ε Unit × Disk) : Effect Unit where
  run w := ((write w.disk).1.mapError message, { w with disk := (write w.disk).2 })

/-- Ask a question, whose answer depends on the number of questions before it. -/
def ask (question : Question) (answer : Nat → Except String α) : Effect α where
  run w := (answer w.asked.length, { w with asked := w.asked ++ [question] })

/-- Print lines. -/
def print (lines : List String) : Effect Unit where
  run w := (.ok (), { w with printed := w.printed ++ lines })

end Effect

/-- An answer, or the message for its absence. -/
def orMessage {α : Type} (message : String) : Option α → Except String α
  | some a => .ok a
  | none => .error message

namespace Command

/-! ## The commands -/

/-- The text with blanks in front up to a width. -/
def padLeft (width : Nat) (text : String) : String :=
  String.ofList (List.replicate (width - text.length) ' ') ++ text

/-- The text with blanks behind it up to a width. -/
def padRight (width : Nat) (text : String) : String :=
  text ++ String.ofList (List.replicate (width - text.length) ' ')

/-- The manifest of a configuration. -/
def loadManifest (c : Config) (disk : Disk) : Except ManifestError Manifest :=
  match c.manifest with
  | some path => Manifest.ofFile disk path
  | none => .ok (Manifest.bankStack c.demo.token)

/-- The line of a unit in the printed order. -/
def orderLine (g : Graph) (entry : Declaration × Nat) : String :=
  let number := padLeft 2 (toString (entry.2 + 1))
  let line := s!"  {number}. {entry.1.name}"
  match g.dependenciesOf entry.1.name with
  | [] => line
  | dependencies => line ++ "  <- " ++ ", ".intercalate dependencies

/-- The lines of the printed order. -/
def orderLines (g : Graph) (order : List Declaration) : List String :=
  s!"Deployment order ({order.length} units):" :: order.zipIdx.map (orderLine g)

/-- Print the deployment order. -/
def runPlan (c : Config) : Effect Unit := do
  let manifest ← .reading ManifestError.message (loadManifest c)
  let graph ← .orFail GraphError.message (Graph.ofManifest manifest)
  let order ← .orFail GraphError.message graph.order
  .print (orderLines graph order)

/-- Ask the node at a URL for its chain. -/
def askChain (net : Network) (url : String) : Effect UInt64 :=
  .ask (.chainId url) fun n => orMessage s!"Failed to reach {url}" (net.chainId n)

/-- The message for a node that serves another chain. -/
def otherChain (c : NetworkConfig) (found : UInt64) : String :=
  s!"Node at {c.rpcUrl.text} reports chain id {found}, expected {c.chainId}"

/-- Sign in to the network, whose chain has to be the configured one. The result is the account that
signs. -/
def connect (net : Network) (c : NetworkConfig) : Effect Address := do
  let key ← .orFail KeyError.message c.signingKey
  let found ← askChain net c.rpcUrl.text
  if found = c.chainId then return key.address else .orFail (otherChain c) (.error found)

/-- The plan and the session of a deployment. -/
def prepareDeploy (c : Config) : Effect (Plan × Session) := do
  let manifest ← .reading ManifestError.message (loadManifest c)
  let plan ← .reading Failure.message fun disk =>
    Plan.build manifest (Registry.ofDirectory disk c.artifactsDir)
  let session ← .reading SessionError.message fun disk =>
    Session.openOrNew disk c.sessionFile c.network.chainId
  return (plan, session)

/-- Deploy the units of a plan that a session does not hold. The result is the session with them. -/
def execute (net : Network) (p : Plan) (session : Session) (sender : Address) : Effect Session where
  run w :=
    let e := p.execute session w.disk (net.submitter sender w.asked.length)
    ((e.outcome.map fun _ => e.session).mapError Failure.message,
      { w with disk := e.disk, asked := w.asked ++ e.submitted.map .creation })

/-- Write the addresses of a session to the file for them, if there is one. -/
def exportAddresses (c : Config) (session : Session) : Effect Unit :=
  match c.envFile with
  | some path => .writing SessionError.message fun disk => session.exportEnv disk path
  | none => pure ()

/-- The line of a deployed unit. -/
def handleLine (handle : Handle) : String :=
  padRight 24 handle.name ++ " " ++ handle.address.checksum

/-- Deploy what the session does not hold yet. -/
def runDeploy (net : Network) (c : Config) : Effect Unit := do
  let (p, session) ← prepareDeploy c
  let sender ← connect net c.network
  let session ← execute net p session sender
  exportAddresses c session
  .print (session.handles.map handleLine)

/-- Submit steps. The result are their receipts. -/
def submitSteps (net : Network) (session : Session) (sender : Address) (steps : List Step) :
    Effect (List StepReceipt) where
  run w :=
    let r := runSteps session steps (net.submitter sender w.asked.length)
    (r.outcome.mapError Failure.message,
      { w with asked := w.asked ++ r.submitted.map fun call => .call call.1 call.2 })

/-- The line of a completed step. -/
def receiptLine (r : StepReceipt) : String :=
  "tx result: " ++ padRight 48 r.step ++ " " ++ r.receipt.txHash.text

/-- Prepare the bank of a deployed session. -/
def runPrepareDemo (net : Network) (c : Config) : Effect Unit := do
  let session ← .reading (fun _ => "Deploy first: no usable session file") fun disk =>
    Session.load disk c.sessionFile c.network.chainId
  let sender ← connect net c.network
  let receipts ← submitSteps net session sender c.demo.steps
  .print (receipts.map receiptLine)

/-- The address of a unit that has to be deployed. -/
def deployedUnit (session : Session) (name : String) : Except String Address :=
  match session.get? name with
  | some handle => .ok handle.address
  | none => .error s!"{name} not deployed in this session"

/-- Ask for an amount. -/
def askAmount (net : Network) (what : String) (question : Question) : Effect Uint256 :=
  .ask question fun n => orMessage s!"Failed to get {what}: {detail}" (net.amount n)

/-- Show what an account holds itself and in the bank. -/
def showBalances (net : Network) (token bank account : Address) : Effect Unit := do
  let denomination := token.bankDenomination
  let held ← askAmount net "token balance" (.tokenBalance token account)
  let banked ← askAmount net "bank balance" (.bankBalance bank account denomination)
  .print [s!"{account.checksum}  token={held.decimal}  bank[{denomination}]={banked.decimal}"]

/-- Show what the bank may take from the account that signs, if there is a key. The result is the
account. -/
def showAllowance (net : Network) (c : NetworkConfig) (token bank : Address) :
    Effect (List Address) :=
  match c.privateKey with
  | some _ => do
    let key ← .orFail KeyError.message c.signingKey
    let allowance ← askAmount net "allowance" (.allowance token key.address bank)
    .print [s!"{key.address.checksum}  allowance[bank]={allowance.decimal}"]
    return [key.address]
  | none => pure []

/-- Show balances: of the account that signs, if there is a key, and then of the recipients. -/
def runBalances (net : Network) (c : Config) : Effect Unit := do
  let session ← .reading SessionError.message fun disk =>
    Session.load disk c.sessionFile c.network.chainId
  let token ← .orFail id (deployedUnit session tokenUnit)
  let bank ← .orFail id (deployedUnit session bankUnit)
  let accounts ← showAllowance net c.network token bank
  (accounts ++ c.demo.recipients).forM (showBalances net token bank)

/-- What a command does. -/
def effect (net : Network) (c : Config) : Command → Effect Unit
  | .plan => runPlan c
  | .deploy => runDeploy net c
  | .prepareDemo => runPrepareDemo net c
  | .all => do
    runDeploy net c
    runPrepareDemo net c
  | .balances => runBalances net c

end Command

namespace CommandLine

/-! ## The program -/

/-- The name of a settings file. -/
def settingsFile : String := ".env"

/-- The places of a settings file: the working directory, and then the directories above it. -/
def settingsPaths (disk : Disk) : List String :=
  (List.range (disk.ancestors + 1)).map fun n =>
    String.join (List.replicate n "../") ++ settingsFile

/-- The content of the first file among the paths. A directory is passed over, and another error
than a missing file ends the search. -/
def firstFile? (disk : Disk) : List String → Option (List UInt8)
  | [] => none
  | path :: paths =>
    match disk.read path with
    | .ok content => some content
    | .error .notFound | .error .isDirectory => firstFile? disk paths
    | .error _ => none

/-- The content of the settings file that is nearest to the working directory. -/
def settings? (disk : Disk) : Option (List UInt8) :=
  firstFile? disk (settingsPaths disk)

/-- The environment with the settings of the file, if there is one. -/
def loadEnvironment (env : Environment) (disk : Disk) : Environment :=
  match settings? disk with
  | some content => EnvFile.load env content
  | none => env

/-- The configuration of an environment and flags. -/
def configure (env : Environment) (disk : Disk) (flags : Flags) : Except ConfigError Config :=
  (Config.ofEnvironment (loadEnvironment env disk)).bind flags.apply

/-- How the program ends. -/
inductive Outcome where
  | finished
  | failed (message : String)
  /-- The usage is explained. -/
  | help
  /-- The arguments are wrong. -/
  | misuse
  deriving DecidableEq

/-- Run a command with the configuration of an environment and flags. -/
def runCommand (net : Network) (command : Command) (flags : Flags) (env : Environment) :
    Effect Unit := do
  let c ← .reading ConfigError.message (configure env · flags)
  command.effect net c

/-- Run the program. -/
def run (net : Network) (arguments : List String) (env : Environment) (disk : Disk) :
    Outcome × World :=
  match Arguments.read arguments with
  | .help => (.help, .before disk)
  | .misuse => (.misuse, .before disk)
  | .run command flags =>
    match (runCommand net command flags env).run (.before disk) with
    | (.ok (), w) => (.finished, w)
    | (.error message, w) => (.failed message, w)

end CommandLine

end Rollout
