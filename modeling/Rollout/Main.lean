import Rollout.CommandLine.Commands

/-!
# The program

Gathers the arguments, the variables and the files that a command may read, and prints what the
command has come to.
-/

namespace Rollout.Main

/-- The variables that hold settings. -/
def variableNames : List String :=
  ["DEPLOYER_RPC_URL", "DEPLOYER_CHAIN_ID", "DEPLOYER_PRIVATE_KEY", "DEPLOYER_GAS_LIMIT",
    "DEPLOYER_ARTIFACTS_DIR", "DEPLOYER_MANIFEST", "DEPLOYER_SESSION_FILE", "DEPLOYER_ENV_FILE",
    "DEMO_RECIPIENTS", "DEMO_TOKEN_NAME", "DEMO_TOKEN_SYMBOL", "DEMO_TOKEN_SUPPLY",
    "DEMO_APPROVE_AMOUNT", "DEMO_DEPOSIT_AMOUNT"]

/-- Add a variable to an environment, if it is set. -/
def addVariable (env : Environment) (key : String) : IO Environment := do
  match ← IO.getEnv key with
  | some value => return env.set key (utf8 value.toList)
  | none => return env

/-- Add what stands at a path, if anything does. What cannot be read as a file counts as a
directory. -/
def addFile (disk : Disk) (path : String) : IO Disk := do
  match ← (IO.FS.readBinFile path).toBaseIO with
  | .ok content => return disk.put path (.file content.toList)
  | .error (.noFileOrDirectory ..) => return disk
  | .error _ => return disk.put path .directory

/-- The files that a configuration names. -/
def configuredFiles (c : Config) : List String :=
  c.sessionFile :: c.manifest.toList

/-- The files that may hold the artifacts of a manifest. -/
def artifactFiles (c : Config) (m : Manifest) : List String :=
  m.units.flatMap fun u => Registry.candidates c.artifactsDir u.artifactName

/-- How many directories there are above the working directory. -/
def countAncestors : IO Nat := do
  let directory := toString (← IO.currentDir)
  return ((Path.names directory).filter (· ≠ "")).length

/-- All files that a command with these flags may read. -/
def gather (env : Environment) (flags : Flags) : IO Disk := do
  let disk := { Disk.empty with ancestors := ← countAncestors }
  let disk ← (CommandLine.settingsPaths disk).foldlM addFile disk
  match CommandLine.configure env disk flags with
  | .error _ => return disk
  | .ok c =>
    let disk ← (configuredFiles c).foldlM addFile disk
    match Command.loadManifest c disk with
    | .error _ => return disk
    | .ok m => (artifactFiles c m).foldlM addFile disk

/-- The disk for a request. -/
def diskFor (env : Environment) : Request → IO Disk
  | .run _ flags => gather env flags
  | _ => return Disk.empty

end Rollout.Main

open Rollout in
/-- Run the program on a network that does not answer, so that a command that asks it fails. -/
def main (arguments : List String) : IO UInt32 := do
  let env ← Rollout.Main.variableNames.foldlM Main.addVariable Environment.empty
  let disk ← Main.diskFor env (Arguments.read arguments)
  let (outcome, world) := CommandLine.run .silent arguments env disk
  world.printed.forM IO.println
  match outcome with
  | .finished | .help => return 0
  | .misuse => return 2
  | .failed message => do
    IO.eprintln s!"Error: {message}"
    return 1
