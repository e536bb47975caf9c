import Rollout.CommandLine.Commands
import Rollout.Proofs.Config.EnvFile
import Rollout.Proofs.Config.Settings

/-!
# Flags in place of variables

A flag takes the place of a variable, so that the configuration does not depend on what the variable
says, as long as it can be read. The settings file may pass the value of a variable on to other
variables, which no flag can undo.
-/

namespace Rollout

open Config

variable {f : Flags} {env env' : Environment}

namespace Flags

/-- A flag is given in place of the variable. -/
def Overrides (f : Flags) (key : String) : Prop :=
  (key = "DEPLOYER_RPC_URL" ∧ f.rpcUrl.isSome) ∨ (key = "DEPLOYER_CHAIN_ID" ∧ f.chainId.isSome) ∨
    (key = "DEPLOYER_ARTIFACTS_DIR" ∧ f.artifactsDir.isSome) ∨
    (key = "DEPLOYER_MANIFEST" ∧ f.manifest.isSome) ∨
    (key = "DEPLOYER_SESSION_FILE" ∧ f.sessionFile.isSome)

/-- The environments differ only in variables in whose place a flag is given. -/
def AgreeOutside (f : Flags) (env env' : Environment) : Prop :=
  ∀ key, ¬ f.Overrides key → env key = env' key

/-- The variables in whose place a flag is given can be read. -/
structure Readable (f : Flags) (env : Environment) : Prop where
  rpcUrl : f.rpcUrl.isSome →
    ∃ url, Url.parse? ((env.text? "DEPLOYER_RPC_URL").getD defaultUrl) = some url
  chainId : f.chainId.isSome → ¬ Malformed env "DEPLOYER_CHAIN_ID" MeansNumber

/-- A variable in whose place a flag is given has an underscore in its name. -/
theorem Overrides.underscore_mem {key : String} (h : f.Overrides key) : '_' ∈ key.toList := by
  rcases h with ⟨rfl, -⟩ | ⟨rfl, -⟩ | ⟨rfl, -⟩ | ⟨rfl, -⟩ | ⟨rfl, -⟩ <;> decide

/-- Flags give the same configuration when all settings that they do not replace are the same. -/
theorem apply_congr {c c' : Config}
    (hurl : f.rpcUrl = none → c.network.rpcUrl = c'.network.rpcUrl)
    (hchain : f.chainId = none → c.network.chainId = c'.network.chainId)
    (hartifacts : f.artifactsDir = none → c.artifactsDir = c'.artifactsDir)
    (hmanifest : f.manifest = none → c.manifest = c'.manifest)
    (hsession : f.sessionFile = none → c.sessionFile = c'.sessionFile)
    (hkey : c.network.privateKey = c'.network.privateKey)
    (hgas : c.network.gasLimit = c'.network.gasLimit)
    (hexport : c.envFile = c'.envFile) (hdemo : c.demo = c'.demo) : f.apply c = f.apply c' := by
  have hgetD {α : Type} {o : Option α} {a b : α} (h : o = none → a = b) : o.getD a = o.getD b := by
    cases o with
    | none => exact h rfl
    | some _ => rfl
  have hor : f.manifest.or c.manifest = f.manifest.or c'.manifest := by
    cases hm : f.manifest with
    | none => exact hmanifest hm
    | some _ => rfl
  simp only [apply, hgetD hchain, hgetD hartifacts, hgetD hsession, hor, hkey, hgas, hexport,
    hdemo]
  cases hu : f.rpcUrl with
  | none => simp only [hurl hu]
  | some _ => rfl

/-- A variable without a flag in its place has the same text in both environments. -/
theorem AgreeOutside.text?_eq (h : f.AgreeOutside env env') {key : String}
    (hkey : ¬ f.Overrides key) : env.text? key = env'.text? key := by
  rw [Environment.text?, Environment.text?, h key hkey]

/-- Such a variable is read in the same way. -/
theorem AgreeOutside.read_eq {α : Type} {parse : String → Except ConfigError α}
    (h : f.AgreeOutside env env') {key : String} (hkey : ¬ f.Overrides key) :
    Config.read env key parse = Config.read env' key parse := by
  rw [Config.read, Config.read, h.text?_eq hkey]

/-- Configurations of environments that differ only in variables with a flag in their place are the
same under the flags. -/
theorem AgreeOutside.apply_eq (h : f.AgreeOutside env env') {c c' : Config}
    (hc : ofEnvironment env = .ok c) (hc' : ofEnvironment env' = .ok c') :
    f.apply c = f.apply c' := by
  have hfixed : ∀ key ∈ ["DEPLOYER_PRIVATE_KEY", "DEPLOYER_GAS_LIMIT", "DEPLOYER_ENV_FILE",
      "DEMO_RECIPIENTS", "DEMO_TOKEN_NAME", "DEMO_TOKEN_SYMBOL", "DEMO_TOKEN_SUPPLY",
      "DEMO_APPROVE_AMOUNT", "DEMO_DEPOSIT_AMOUNT"], ¬ f.Overrides key := by
    simp [Overrides]
  have hread {α : Type} {parse : String → Except ConfigError α} {key : String} {a a' : Option α}
      (hkey : ¬ f.Overrides key) (ha : Config.read env key parse = .ok a)
      (ha' : Config.read env' key parse = .ok a') : a = a' :=
    Except.ok.inj (ha.symm.trans ((h.read_eq hkey).trans ha'))
  simp only [ofEnvironment, readNetwork, readDemo, readNumber, readAmount, bind_eq_ok, Pure.pure,
    Except.pure, Except.ok.injEq] at hc hc'
  obtain ⟨_, ⟨rpcUrl, hurl, chainId, hchain, gasLimit, hgas, rfl⟩, _, ⟨recipients, hrecipients,
    supply, hsupply, approveAmount, happrove, depositAmount, hdeposit, rfl⟩, rfl⟩ := hc
  obtain ⟨_, ⟨rpcUrl', hurl', chainId', hchain', gasLimit', hgas', rfl⟩, _, ⟨recipients',
    hrecipients', supply', hsupply', approveAmount', happrove', depositAmount', hdeposit', rfl⟩,
    rfl⟩ := hc'
  apply apply_congr
  · intro hnone
    have hkey : ¬ f.Overrides "DEPLOYER_RPC_URL" := by simp [Overrides, hnone]
    rw [h.text?_eq hkey] at hurl
    exact Except.ok.inj (hurl.symm.trans hurl')
  · intro hnone
    have hkey : ¬ f.Overrides "DEPLOYER_CHAIN_ID" := by simp [Overrides, hnone]
    exact congrArg (·.getD 214) (hread hkey hchain hchain')
  · intro hnone
    have hkey : ¬ f.Overrides "DEPLOYER_ARTIFACTS_DIR" := by simp [Overrides, hnone]
    dsimp only
    rw [h.text?_eq hkey]
  · intro hnone
    have hkey : ¬ f.Overrides "DEPLOYER_MANIFEST" := by simp [Overrides, hnone]
    exact h.text?_eq hkey
  · intro hnone
    have hkey : ¬ f.Overrides "DEPLOYER_SESSION_FILE" := by simp [Overrides, hnone]
    dsimp only
    rw [h.text?_eq hkey]
  · dsimp only [readKey]
    rw [h.text?_eq (hfixed "DEPLOYER_PRIVATE_KEY" (by simp))]
  · dsimp only
    rw [hread (hfixed _ (by simp)) hgas hgas']
  · exact h.text?_eq (hfixed _ (by simp))
  · dsimp only
    rw [hread (hfixed _ (by simp)) hrecipients hrecipients',
      hread (hfixed _ (by simp)) hsupply hsupply', hread (hfixed _ (by simp)) happrove happrove',
      hread (hfixed _ (by simp)) hdeposit hdeposit',
      h.text?_eq (hfixed "DEMO_TOKEN_NAME" (by simp)),
      h.text?_eq (hfixed "DEMO_TOKEN_SYMBOL" (by simp))]

/-- There is no configuration when a variable with a flag in its place cannot be read. -/
theorem readable_of_ofEnvironment {c : Config} (hc : ofEnvironment env = .ok c) :
    f.Readable env := by
  obtain ⟨hurl, hmalformed⟩ := Config.exists_ofEnvironment_iff.mp ⟨c, hc⟩
  exact ⟨fun _ => hurl, fun _ hchain => hmalformed (.chainId hchain)⟩

/-- There is a configuration for an environment in which the variables with a flag in their place
can be read, when there is one for an environment that differs only in these. -/
theorem AgreeOutside.exists_ofEnvironment (h : f.AgreeOutside env env')
    (hreadable : f.Readable env') (hexists : ∃ c, ofEnvironment env = .ok c) :
    ∃ c, ofEnvironment env' = .ok c := by
  obtain ⟨hurl, hwell⟩ := exists_ofEnvironment_iff.mp hexists
  have hmalformed {α : Type} {Means : String → α → Prop} {key : String}
      (hkey : ¬ f.Overrides key) (hmal : Malformed env' key Means) : Malformed env key Means := by
    rwa [Malformed, h.text?_eq hkey]
  refine exists_ofEnvironment_iff.mpr ⟨?_, ?_⟩
  · cases hflag : f.rpcUrl with
    | none =>
      have hkey : ¬ f.Overrides "DEPLOYER_RPC_URL" := by simp [Overrides, hflag]
      rwa [← h.text?_eq hkey]
    | some _ => exact hreadable.rpcUrl (by rw [hflag]; rfl)
  · intro hmal
    cases hmal with
    | chainId hchain =>
      cases hflag : f.chainId with
      | none => exact hwell (.chainId (hmalformed (by simp [Overrides, hflag]) hchain))
      | some _ => exact hreadable.chainId (by rw [hflag]; rfl) hchain
    | gasLimit hgas => exact hwell (.gasLimit (hmalformed (by simp [Overrides]) hgas))
    | recipients hlist htext hmeaningless =>
      have hkey : ¬ f.Overrides "DEMO_RECIPIENTS" := by simp [Overrides]
      exact hwell (.recipients ((h.text?_eq hkey).trans hlist) htext hmeaningless)
    | supply hsupply => exact hwell (.supply (hmalformed (by simp [Overrides]) hsupply))
    | approveAmount happrove =>
      exact hwell (.approveAmount (hmalformed (by simp [Overrides]) happrove))
    | depositAmount hdeposit =>
      exact hwell (.depositAmount (hmalformed (by simp [Overrides]) hdeposit))

end Flags

namespace CommandLine

variable {disk : Disk}

/-- A configuration is one of the loaded environment under the flags. -/
theorem configure_eq_ok {c : Config} : configure env disk f = .ok c ↔
    ∃ c₀, ofEnvironment (loadEnvironment env disk) = .ok c₀ ∧ f.apply c₀ = .ok c := by
  exact bind_eq_ok

/-- What is configured for one environment is configured for the other, when the overridden
variables can be read in the second or else not in the first. -/
theorem configure_of_agreeOutside
    (hagree : f.AgreeOutside (loadEnvironment env disk) (loadEnvironment env' disk))
    (hreadable : f.Readable (loadEnvironment env disk) → f.Readable (loadEnvironment env' disk))
    {c : Config} (hc : configure env disk f = .ok c) : configure env' disk f = .ok c := by
  obtain ⟨c₀, hc₀, hc⟩ := configure_eq_ok.mp hc
  obtain ⟨c₀', hc₀'⟩ := hagree.exists_ofEnvironment
    (hreadable (Flags.readable_of_ofEnvironment hc₀)) ⟨c₀, hc₀⟩
  exact configure_eq_ok.mpr ⟨c₀', hc₀', (hagree.apply_eq hc₀ hc₀').symm.trans hc⟩

/-- The settings file passes no variable on that has a flag in its place. -/
def PassesNothingOn (disk : Disk) (f : Flags) : Prop :=
  ∀ content, settings? disk = some content → ∀ key, f.Overrides key →
    ¬ utf8 (EnvFile.mention key.toList) <:+: content

/-- Then the loaded environments differ only in variables with a flag in their place. -/
theorem agreeOutside_loadEnvironment (hfile : PassesNothingOn disk f)
    (h : f.AgreeOutside env env') :
    f.AgreeOutside (loadEnvironment env disk) (loadEnvironment env' disk) := by
  intro key hkey
  unfold loadEnvironment
  cases hcontent : settings? disk with
  | some content =>
    exact EnvFile.load_congr (fun _ => Flags.Overrides.underscore_mem) (hfile content hcontent) h
      hkey
  | none => exact h key hkey

/-- Flags override the environment. Two environments that differ only in variables with a flag in
their place lead to the same configuration or to none, when the settings file gives the same values
to all other variables and the overridden ones can be read in both or in neither. The file does so
when it mentions no overridden variable. -/
theorem configure_of_overridden (h : f.AgreeOutside env env') (disk : Disk) :
    (f.AgreeOutside (loadEnvironment env disk) (loadEnvironment env' disk) →
      (f.Readable (loadEnvironment env disk) ↔ f.Readable (loadEnvironment env' disk)) →
      ∀ c, configure env disk f = .ok c ↔ configure env' disk f = .ok c) ∧
    (PassesNothingOn disk f →
      f.AgreeOutside (loadEnvironment env disk) (loadEnvironment env' disk)) := by
  refine ⟨fun hagree hreadable c => ⟨configure_of_agreeOutside hagree hreadable.mp,
    configure_of_agreeOutside ?_ hreadable.mpr⟩, fun hfile => agreeOutside_loadEnvironment hfile h⟩
  exact fun key hkey => (hagree key hkey).symm

/-- The address of the node is set, and the chain to a text. -/
def chainEnvironment (chain : List Char) : Environment :=
  (Environment.empty.set "DEPLOYER_RPC_URL" (utf8 "http://[::1]:8545".toList)).set
    "DEPLOYER_CHAIN_ID" (utf8 chain)

/-- Flags that name the chain. -/
def chainFlags : Flags :=
  { chainId := some 5 }

/-- Environments that name two chains differ only in a variable with a flag in its place. -/
theorem agreeOutside_chainEnvironment (chain chain' : List Char) :
    chainFlags.AgreeOutside (chainEnvironment chain) (chainEnvironment chain') := by
  intro key hkey
  have hne : key ≠ "DEPLOYER_CHAIN_ID" := by
    rintro rfl
    exact hkey (Or.inr (Or.inl ⟨rfl, rfl⟩))
  simp only [chainEnvironment, Environment.set, if_neg hne]

/-- There is a configuration when it names a manifest. -/
theorem exists_configure_of_manifest {name : String}
    (h : (configure env disk f).toOption.bind (·.manifest) = some name) :
    ∃ c, configure env disk f = .ok c ∧ c.manifest = some name := by
  cases hc : configure env disk f with
  | error e => simp [hc, Except.toOption] at h
  | ok c => exact ⟨c, rfl, by simpa [hc, Except.toOption] using h⟩

/-- A settings file above the working directory that names the manifest. -/
def settledDisk : Disk :=
  { Disk.empty with ancestors := 2 }.put "../.env"
    (.file (utf8 "DEPLOYER_MANIFEST=units.json".toList))

/-- The chain of the environment does not matter under a flag that names the chain. In both cases
the settings file is found and names the manifest. -/
theorem configure_of_overridden_chain :
    chainFlags.AgreeOutside (chainEnvironment ['1']) (chainEnvironment ['2']) ∧
      ∃ c, configure (chainEnvironment ['1']) settledDisk chainFlags = .ok c ∧
        configure (chainEnvironment ['2']) settledDisk chainFlags = .ok c ∧
        c.manifest = some "units.json" := by
  have hagree := agreeOutside_chainEnvironment ['1'] ['2']
  have hreadable (chain : List Char) (v : UInt64)
      (hchain : readNumber (loadEnvironment (chainEnvironment chain) settledDisk)
        "DEPLOYER_CHAIN_ID" = .ok (some v)) :
      chainFlags.Readable (loadEnvironment (chainEnvironment chain) settledDisk) :=
    ⟨fun hurl => absurd hurl (by decide),
      fun _ => exists_given_iff.mp ⟨_, readNumber_eq_ok.mp hchain⟩⟩
  have hfile : PassesNothingOn settledDisk chainFlags := by
    have hcontent : settings? settledDisk =
        some (utf8 "DEPLOYER_MANIFEST=units.json".toList) := by decide +kernel
    have hmention : ¬ utf8 (EnvFile.mention "DEPLOYER_CHAIN_ID".toList) <:+:
        utf8 "DEPLOYER_MANIFEST=units.json".toList := by decide +kernel
    rintro content hsettings key (⟨rfl, hflag⟩ | ⟨rfl, hflag⟩ | ⟨rfl, hflag⟩ | ⟨rfl, hflag⟩ |
      ⟨rfl, hflag⟩)
    · cases hflag
    · rw [hcontent] at hsettings
      cases hsettings
      exact hmention
    · cases hflag
    · cases hflag
    · cases hflag
  obtain ⟨hsame, hpasses⟩ := configure_of_overridden hagree settledDisk
  have hiff := hsame (hpasses hfile)
    (iff_of_true (hreadable ['1'] 1 (by decide +kernel)) (hreadable ['2'] 2 (by decide +kernel)))
  have hnamed : (configure (chainEnvironment ['1']) settledDisk chainFlags).toOption.bind
      (·.manifest) = some "units.json" := by decide +kernel
  obtain ⟨c, hc, hmanifest⟩ := exists_configure_of_manifest hnamed
  exact ⟨hagree, c, hc, (hiff c).mp hc, hmanifest⟩

/-- A setting that gives the manifest the name of the chain. -/
def chainedSetting : String :=
  "DEPLOYER_MANIFEST=$\x7bDEPLOYER_CHAIN_ID\x7d"

/-- The value of one variable is passed on to another. -/
theorem load_chainedSetting (env : Environment) : EnvFile.load env (utf8 chainedSetting.toList) =
    (EnvFile.Loaded.add ⟨env, []⟩ "DEPLOYER_MANIFEST".toList
      (EnvFile.Loaded.lookup ⟨env, []⟩ "DEPLOYER_CHAIN_ID".toList)).env := by
  have hhead : EnvFile.readHead? (trim chainedSetting.toList) =
      some ("DEPLOYER_MANIFEST".toList, EnvFile.mention "DEPLOYER_CHAIN_ID".toList) := by
    decide +kernel
  exact EnvFile.load_of_line? (by decide +kernel) (by decide +kernel) (by decide +kernel)
    (EnvFile.Loaded.line?_of_mention (by decide +kernel) hhead (by decide +kernel))

/-- A settings file that gives the manifest the name of the chain. -/
def chainedDisk : Disk :=
  Disk.empty.put settingsFile (.file (utf8 chainedSetting.toList))

/-- The chain in the environment is the manifest of the configuration. -/
theorem configure_chainedDisk (env : Environment) : configure env chainedDisk chainFlags =
    (ofEnvironment (EnvFile.Loaded.add ⟨env, []⟩ "DEPLOYER_MANIFEST".toList
      (EnvFile.Loaded.lookup ⟨env, []⟩ "DEPLOYER_CHAIN_ID".toList)).env).bind chainFlags.apply := by
  have hsettings : settings? chainedDisk = some (utf8 chainedSetting.toList) := by
    decide +kernel
  rw [configure, loadEnvironment, hsettings]
  dsimp only
  rw [load_chainedSetting]

/-- A variable that cannot be read is not overridden, and the value of one that can be read is still
passed on to others. -/
theorem configure_despite_flag :
    Arguments.read ["--chain-id", "5", "plan"] = .run .plan chainFlags ∧
    (chainFlags.AgreeOutside (chainEnvironment ['7']) (chainEnvironment ['x']) ∧
      (∃ c, configure (chainEnvironment ['7']) Disk.empty chainFlags = .ok c) ∧
      ∃ e, configure (chainEnvironment ['x']) Disk.empty chainFlags = .error e) ∧
    chainFlags.AgreeOutside (chainEnvironment ['7']) (chainEnvironment ['8']) ∧
      (∃ c, configure (chainEnvironment ['7']) chainedDisk chainFlags = .ok c ∧
        c.manifest = some "7") ∧
      ∃ c, configure (chainEnvironment ['8']) chainedDisk chainFlags = .ok c ∧
        c.manifest = some "8" := by
  have hcases (chain : List Char) :
      (∃ c, configure (chainEnvironment chain) Disk.empty chainFlags = .ok c) ↔
        (configure (chainEnvironment chain) Disk.empty chainFlags).toOption.isSome := by
    cases configure (chainEnvironment chain) Disk.empty chainFlags <;> simp [Except.toOption]
  have hreads : (configure (chainEnvironment ['7']) Disk.empty chainFlags).toOption.isSome := by
    decide +kernel
  have hrefuses :
      ¬ (configure (chainEnvironment ['x']) Disk.empty chainFlags).toOption.isSome := by
    decide +kernel
  have hseven : (configure (chainEnvironment ['7']) chainedDisk chainFlags).toOption.bind
      (·.manifest) = some "7" := by
    rw [configure_chainedDisk]
    decide +kernel
  have height : (configure (chainEnvironment ['8']) chainedDisk chainFlags).toOption.bind
      (·.manifest) = some "8" := by
    rw [configure_chainedDisk]
    decide +kernel
  refine ⟨by decide +kernel, ⟨agreeOutside_chainEnvironment _ _, (hcases _).mpr hreads, ?_⟩,
    agreeOutside_chainEnvironment _ _, exists_configure_of_manifest hseven,
    exists_configure_of_manifest height⟩
  exact exists_error_iff.mpr fun hc => hrefuses ((hcases _).mp hc)

end CommandLine

end Rollout
