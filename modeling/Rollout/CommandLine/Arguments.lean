import Rollout.Config.Basic

/-!
# Command line arguments

One command is named on the command line. Its flags may stand before or after it; a flag after the
command replaces the same flag before it, but no flag may be given twice on the same side.
-/

namespace Rollout

/-- What the program is asked to do. -/
inductive Command where
  | plan
  | deploy
  | prepareDemo
  | all
  | balances
  deriving DecidableEq, Repr

/-- The command of a name. -/
def Command.ofName? : String → Option Command
  | "plan" => some .plan
  | "deploy" => some .deploy
  | "prepare-demo" => some .prepareDemo
  | "all" => some .all
  | "balances" => some .balances
  | _ => none

/-- The flags that replace settings. -/
structure Flags where
  rpcUrl : Option String := none
  chainId : Option UInt64 := none
  artifactsDir : Option String := none
  manifest : Option String := none
  sessionFile : Option String := none
  verbose : Bool := false
  deriving DecidableEq

namespace Flags

/-- Give a value to a flag that has none yet. -/
def setOnce {α : Type} (old : Option α) (new : α) : Option (Option α) :=
  match old with
  | some _ => none
  | none => some (some new)

/-- A path, which must not be empty. -/
def path? (text : String) : Option String :=
  if text = "" then none else some text

/-- Give a value to the flag of a name. -/
def set? (f : Flags) (name value : String) : Option Flags :=
  match name with
  | "rpc-url" => (setOnce f.rpcUrl value).map fun v => { f with rpcUrl := v }
  | "chain-id" =>
    match Decimal.readUInt64 value.toList with
    | .ok n => (setOnce f.chainId n).map fun v => { f with chainId := v }
    | .error _ => none
  | "artifacts-dir" =>
    (path? value).bind fun value =>
      (setOnce f.artifactsDir value).map fun v => { f with artifactsDir := v }
  | "manifest" =>
    (path? value).bind fun value =>
      (setOnce f.manifest value).map fun v => { f with manifest := v }
  | "session-file" =>
    (path? value).bind fun value =>
      (setOnce f.sessionFile value).map fun v => { f with sessionFile := v }
  | _ => none

/-- Turn the detailed output on, once. -/
def setVerbose? (f : Flags) : Option Flags :=
  if f.verbose then none else some { f with verbose := true }

/-- The flags behind the command, completed by those before it. -/
def or (behind before : Flags) : Flags where
  rpcUrl := behind.rpcUrl.or before.rpcUrl
  chainId := behind.chainId.or before.chainId
  artifactsDir := behind.artifactsDir.or before.artifactsDir
  manifest := behind.manifest.or before.manifest
  sessionFile := behind.sessionFile.or before.sessionFile
  verbose := behind.verbose || before.verbose

/-- The configuration with the given flags in place of its settings. -/
def apply (f : Flags) (c : Config) : Except ConfigError Config := do
  let rpcUrl ← match f.rpcUrl with
    | some text => Config.readUrl "--rpc-url" text
    | none => .ok c.network.rpcUrl
  return { c with
    network := { c.network with rpcUrl, chainId := f.chainId.getD c.network.chainId }
    artifactsDir := f.artifactsDir.getD c.artifactsDir
    manifest := f.manifest.or c.manifest
    sessionFile := f.sessionFile.getD c.sessionFile }

end Flags

/-- What the arguments ask for. -/
inductive Request where
  | run (command : Command) (flags : Flags)
  /-- To explain the usage. -/
  | help
  /-- The arguments are wrong. -/
  | misuse
  deriving DecidableEq

namespace Arguments

/-- The arguments read so far. -/
structure State where
  /-- The command, with the flags before it. -/
  command : Option (Command × Flags)
  /-- The flags on the present side of the command. -/
  flags : Flags
  /-- The flag that waits for its value. -/
  waiting : Option String
  /-- Two dashes have ended the flags. -/
  onlyNames : Bool

/-- Nothing read yet. -/
def State.start : State := ⟨none, {}, none, false⟩

/-- What one argument leads to: the arguments read so far, or a request that ends the reading. -/
abbrev Progress := Except Request State

/-- The state that is there, or a misuse. -/
def orMisuse (s : Option State) : Progress :=
  match s with
  | some s => .ok s
  | none => .error .misuse

/-- A flag of a name takes a value. -/
def takesValue (name : String) : Bool :=
  name ∈ ["rpc-url", "chain-id", "artifacts-dir", "manifest", "session-file"]

/-- The name and the value of a flag that is written with an equals sign. -/
def cutValue (text : List Char) : String × Option String :=
  match text.dropWhile (· ≠ '=') with
  | _ :: value => (String.ofList (text.takeWhile (· ≠ '=')), some (String.ofList value))
  | [] => (String.ofList text, none)

/-- Take in a flag by its long name, perhaps with its value. -/
def State.long (s : State) (text : List Char) : Progress :=
  match cutValue text with
  | ("help", none) => .error .help
  | ("verbose", none) => orMisuse (s.flags.setVerbose?.map fun f => { s with flags := f })
  | (name, some value) => orMisuse ((s.flags.set? name value).map fun f => { s with flags := f })
  | (name, none) => if takesValue name then .ok { s with waiting := some name } else .error .misuse

/-- Take in flags of one letter. -/
def State.short (s : State) (letters : List Char) : Progress :=
  letters.foldlM
    (fun s letter =>
      if letter = 'h' then .error .help
      else if letter = 'v' then
        orMisuse (s.flags.setVerbose?.map fun f => { s with flags := f })
      else .error .misuse) s

/-- Take in a name, of which only the command is known. -/
def State.name (s : State) (text : String) : Progress :=
  match s.command, s.onlyNames, Command.ofName? text with
  | none, false, some command => .ok { s with command := some (command, s.flags), flags := {} }
  | _, _, _ => .error .misuse

/-- Take in one argument. -/
def State.step (s : State) (text : String) : Progress :=
  match s.waiting with
  | some flag =>
    if text.toList.head? = some '-' ∧ text ≠ "-" then .error .misuse
    else orMisuse ((s.flags.set? flag text).map fun f => { s with flags := f, waiting := none })
  | none =>
    if s.onlyNames then s.name text
    else
      match text.toList with
      | ['-', '-'] => .ok { s with onlyNames := true }
      | '-' :: '-' :: rest => s.long rest
      | '-' :: letter :: letters => s.short (letter :: letters)
      | _ => s.name text

/-- The request of arguments that end here. -/
def State.finish (s : State) : Request :=
  match s.waiting, s.command with
  | none, some (command, before) => .run command (s.flags.or before)
  | _, _ => .misuse

/-- The request of the command that explains the others: at most one of them may be named. -/
def helpRequest (names : List String) : Request :=
  match names with
  | [] => .help
  | [name] => if (Command.ofName? name).isSome ∨ name = "help" then .help else .misuse
  | _ => .misuse

/-- Read arguments one after the other. -/
def readFrom (s : State) : List String → Request
  | [] => s.finish
  | text :: texts =>
    if text = "help" ∧ s.command.isNone ∧ s.waiting.isNone ∧ s.onlyNames = false then
      helpRequest texts
    else
      match s.step text with
      | .ok s => readFrom s texts
      | .error request => request

/-- Read the arguments of the program. -/
def read (arguments : List String) : Request :=
  readFrom State.start arguments

end Arguments

end Rollout
