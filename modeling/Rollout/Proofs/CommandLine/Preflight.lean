import Rollout.Proofs.CommandLine.Effects
import Rollout.Proofs.CommandLine.PrintedOrder
import Rollout.Proofs.Plan.Build

/-!
# What is checked before the network is asked

A deployment asks the network its first question only when everything has been checked that can be
checked without it: the configuration, the manifest, the artifacts, the session file and the signing
key. Otherwise it fails before it asks, writes or prints anything, and the first check that fails
decides the message.
-/

namespace Rollout

variable {c : Config} {disk : Disk} {flags : Flags} {env : Environment} {w : World}
  {net : Network}

namespace Session

variable {path : String} {chainId : UInt64}

/-- A session can be opened when there is no file or the file can be loaded. -/
theorem exists_openOrNew_iff : (∃ s, openOrNew disk path chainId = .ok s) ↔
    ¬ disk.contains path ∨ ∃ s, load disk path chainId = .ok s := by
  unfold openOrNew
  split
  · rename_i hcontains
    simp [hcontains]
  · rename_i hcontains
    simp [hcontains]

/-- A session cannot be opened when there is a file that cannot be loaded. -/
theorem openOrNew_eq_error {e : SessionError} : openOrNew disk path chainId = .error e ↔
    disk.contains path ∧ load disk path chainId = .error e := by
  unfold openOrNew
  split
  · rename_i hcontains
    simp [hcontains]
  · rename_i hcontains
    simp [hcontains]

end Session

namespace Command

open Effect

/-- The artifacts of all units can be loaded. -/
def ArtifactsLoad (c : Config) (disk : Disk) (m : Manifest) : Prop :=
  ∀ d ∈ m.units, ∃ artifact, Registry.ofDirectory disk c.artifactsDir d.artifactName = .ok artifact

/-- There is no session file, or it can be loaded for the configured chain. -/
def SessionUsable (c : Config) (disk : Disk) : Prop :=
  ¬ disk.contains c.sessionFile ∨
    ∃ s, Session.load disk c.sessionFile c.network.chainId = .ok s

/-- Everything that a deployment checks by itself is as it should be. -/
structure Ready (c : Config) (disk : Disk) (m : Manifest) : Prop where
  manifest : loadManifest c disk = .ok m
  isSound : m.IsSound
  artifacts : ArtifactsLoad c disk m
  session : SessionUsable c disk
  key : ∃ key, c.network.signingKey = .ok key

/-- The message of the first check that fails. -/
inductive Refusal (c : Config) (disk : Disk) : String → Prop
  | manifest {e : ManifestError} (hmanifest : loadManifest c disk = .error e) :
    Refusal c disk e.message
  | graph {m : Manifest} {e : GraphError} (hmanifest : loadManifest c disk = .ok m)
      (hfault : m.Fault e) : Refusal c disk e.message
  /-- The unit is the first one in the order of deployment whose artifact cannot be loaded. -/
  | artifact {m : Manifest} {before after : List Declaration} {d : Declaration} {e : ArtifactError}
      (hmanifest : loadManifest c disk = .ok m)
      (horder : (Graph.ofManifest m >>= Graph.order) = .ok (before ++ d :: after))
      (hbefore : ∀ earlier ∈ before, ∃ artifact,
        Registry.ofDirectory disk c.artifactsDir earlier.artifactName = .ok artifact)
      (hartifact : Registry.ofDirectory disk c.artifactsDir d.artifactName = .error e) :
    Refusal c disk e.message
  | session {m : Manifest} {e : SessionError} (hmanifest : loadManifest c disk = .ok m)
      (hsound : m.IsSound) (hartifacts : ArtifactsLoad c disk m)
      (hfile : disk.contains c.sessionFile)
      (hsession : Session.load disk c.sessionFile c.network.chainId = .error e) :
    Refusal c disk e.message
  | key {m : Manifest} {e : KeyError} (hmanifest : loadManifest c disk = .ok m)
      (hsound : m.IsSound) (hartifacts : ArtifactsLoad c disk m) (hsession : SessionUsable c disk)
      (hkey : c.network.signingKey = .error e) : Refusal c disk e.message

/-- Either everything is ready, or a check fails. -/
theorem ready_or_refusal (c : Config) (disk : Disk) :
    (∃ m, Ready c disk m) ∨ ∃ message, Refusal c disk message := by
  cases hmanifest : loadManifest c disk with
  | error e => exact Or.inr ⟨_, .manifest hmanifest⟩
  | ok m =>
    cases hbuild : Plan.build m (Registry.ofDirectory disk c.artifactsDir) with
    | error failure =>
      rcases Plan.build_eq_error.mp hbuild with
        ⟨e, hfault, -⟩ | ⟨before, d, after, e, horder, hbefore, hartifact, -⟩
      · exact Or.inr ⟨_, .graph hmanifest hfault⟩
      · exact Or.inr ⟨_, .artifact hmanifest horder hbefore hartifact⟩
    | ok p =>
      obtain ⟨hsound, hartifacts⟩ := Plan.exists_build_iff.mp ⟨p, hbuild⟩
      cases hsession : Session.openOrNew disk c.sessionFile c.network.chainId with
      | error e =>
        obtain ⟨hfile, hload⟩ := Session.openOrNew_eq_error.mp hsession
        exact Or.inr ⟨_, .session hmanifest hsound hartifacts hfile hload⟩
      | ok session =>
        have husable := Session.exists_openOrNew_iff.mp ⟨session, hsession⟩
        cases hkey : c.network.signingKey with
        | error e => exact Or.inr ⟨_, .key hmanifest hsound hartifacts husable hkey⟩
        | ok key => exact Or.inl ⟨m, hmanifest, hsound, hartifacts, husable, key, hkey⟩

/-- A deployment is prepared when the manifest, the plan and the session are there. -/
theorem run_prepareDeploy_of_ok {m : Manifest} {p : Plan} {session : Session}
    (hmanifest : loadManifest c w.disk = .ok m)
    (hplan : Plan.build m (Registry.ofDirectory w.disk c.artifactsDir) = .ok p)
    (hsession : Session.openOrNew w.disk c.sessionFile c.network.chainId = .ok session) :
    (prepareDeploy c).run w = (.ok (p, session), w) := by
  rw [prepareDeploy, run_bind_of_ok (run_reading_of_ok hmanifest),
    run_bind_of_ok (run_reading_of_ok hplan), run_bind_of_ok (run_reading_of_ok hsession)]
  rfl

/-- There is nothing to deploy without a plan. -/
theorem run_prepareDeploy_of_unplanned {m : Manifest} {failure : Failure}
    (hmanifest : loadManifest c w.disk = .ok m)
    (hplan : Plan.build m (Registry.ofDirectory w.disk c.artifactsDir) = .error failure) :
    (prepareDeploy c).run w = (.error failure.message, w) := by
  rw [prepareDeploy, run_bind_of_ok (run_reading_of_ok hmanifest)]
  exact run_bind_of_error (run_reading_of_error hplan)

/-- There is nowhere to record a deployment without a session. -/
theorem run_prepareDeploy_of_sessionless {m : Manifest} {p : Plan} {e : SessionError}
    (hmanifest : loadManifest c w.disk = .ok m)
    (hplan : Plan.build m (Registry.ofDirectory w.disk c.artifactsDir) = .ok p)
    (hsession : Session.openOrNew w.disk c.sessionFile c.network.chainId = .error e) :
    (prepareDeploy c).run w = (.error e.message, w) := by
  rw [prepareDeploy, run_bind_of_ok (run_reading_of_ok hmanifest),
    run_bind_of_ok (run_reading_of_ok hplan)]
  exact run_bind_of_error (run_reading_of_error hsession)

/-- A deployment fails with the message of the first check that fails, and leaves everything as it
is. -/
theorem run_runDeploy_of_refusal {message : String} (hrefusal : Refusal c w.disk message) :
    (runDeploy net c).run w = (.error message, w) := by
  cases hrefusal with
  | manifest hmanifest =>
    exact run_bind_of_error (run_bind_of_error (run_reading_of_error hmanifest))
  | graph hmanifest hfault =>
    exact run_bind_of_error (run_prepareDeploy_of_unplanned hmanifest
      (Plan.build_eq_error.mpr (Or.inl ⟨_, hfault, rfl⟩)))
  | artifact hmanifest horder hbefore hartifact =>
    exact run_bind_of_error (run_prepareDeploy_of_unplanned hmanifest
      (Plan.build_eq_error.mpr (Or.inr ⟨_, _, _, _, horder, hbefore, hartifact, rfl⟩)))
  | session hmanifest hsound hartifacts hfile hload =>
    obtain ⟨p, hplan⟩ := Plan.exists_build_iff.mpr ⟨hsound, hartifacts⟩
    have hsession := Session.openOrNew_eq_error.mpr ⟨hfile, hload⟩
    exact run_bind_of_error (run_prepareDeploy_of_sessionless hmanifest hplan hsession)
  | key hmanifest hsound hartifacts husable hkey =>
    obtain ⟨p, hplan⟩ := Plan.exists_build_iff.mpr ⟨hsound, hartifacts⟩
    obtain ⟨session, hsession⟩ := Session.exists_openOrNew_iff.mpr husable
    rw [runDeploy, run_bind_of_ok (run_prepareDeploy_of_ok hmanifest hplan hsession)]
    exact run_bind_of_error (run_connect_of_error hkey w)

/-- When everything is ready, the network is asked for its chain. -/
theorem asked_runDeploy {m : Manifest} (hready : Ready c w.disk m) :
    w.asked ++ [.chainId c.network.rpcUrl.text] <+: ((runDeploy net c).run w).2.asked := by
  obtain ⟨hmanifest, hsound, hartifacts, husable, key, hkey⟩ := hready
  obtain ⟨p, hplan⟩ := Plan.exists_build_iff.mpr ⟨hsound, hartifacts⟩
  obtain ⟨session, hsession⟩ := Session.exists_openOrNew_iff.mpr husable
  rw [runDeploy, run_bind_of_ok (run_prepareDeploy_of_ok hmanifest hplan hsession)]
  refine (asked_connect hkey w).trans (prefix_bind (fun sender => ?_) w)
  exact (keepsAsked_execute p session sender).bind keepsAsked_finish

/-- On the configured chain the codes of the plan's execution are submitted next. -/
theorem asked_runDeploy_of_chain {m : Manifest} {p : Plan} {session : Session} {key : SigningKey}
    (hmanifest : loadManifest c w.disk = .ok m)
    (hplan : Plan.build m (Registry.ofDirectory w.disk c.artifactsDir) = .ok p)
    (hsession : Session.openOrNew w.disk c.sessionFile c.network.chainId = .ok session)
    (hkey : c.network.signingKey = .ok key)
    (hchain : net.chainId w.asked.length = some c.network.chainId) :
    w.asked ++ .chainId c.network.rpcUrl.text ::
      (p.execute session w.disk (net.submitter key.address (w.asked.length + 1))).submitted.map
        .creation <+: ((runDeploy net c).run w).2.asked := by
  rw [runDeploy, run_bind_of_ok (run_prepareDeploy_of_ok hmanifest hplan hsession),
    run_bind_of_ok (run_connect_of_chain hkey hchain)]
  have hexecuted := prefix_bind (keepsAsked_finish (c := c))
    { w with asked := w.asked ++ [.chainId c.network.rpcUrl.text] }
    (x := execute net p session key.address)
  simpa [execute] using hexecuted

/-- The order that is printed is the order of the plan of the same manifest. -/
theorem run_runPlan_of_build {m : Manifest} {registry : Registry} {p : Plan}
    (hmanifest : loadManifest c w.disk = .ok m) (hbuild : Plan.build m registry = .ok p) :
    ∃ lines, (runPlan c).run w = (.ok (), { w with printed := w.printed ++ lines }) ∧
      ShowsOrder m p.order lines := by
  rw [Plan.build_eq] at hbuild
  obtain ⟨units, hsorted, hbuild⟩ := bind_eq_ok.mp hbuild
  obtain ⟨g, hgraph, horder⟩ := bind_eq_ok.mp (mapError_eq_ok.mp hsorted)
  obtain ⟨planned, hloaded, rfl⟩ := map_eq_ok.mp hbuild
  obtain ⟨rfl, -⟩ := Plan.mapM_loadUnit_eq_ok.mp hloaded
  refine ⟨orderLines g (planned.map (·.declaration)), ?_, ?_⟩
  · rw [runPlan, run_bind_of_ok (run_reading_of_ok hmanifest),
      run_bind_of_ok (run_orFail_of_ok hgraph), run_bind_of_ok (run_orFail_of_ok horder)]
    rfl
  · have hshows := showsOrder_orderLines (Graph.mirrors_of_ofManifest hgraph)
      (planned.map (·.declaration))
    rwa [List.map_map] at hshows

end Command

namespace CommandLine

open Command Effect

variable {arguments : List String} {command : Command}

/-- The message of the first check of a deployment that fails, beginning with the configuration. -/
inductive Refused (env : Environment) (disk : Disk) (flags : Flags) : String → Prop
  | configuration {e : ConfigError} (hconfigure : configure env disk flags = .error e) :
    Refused env disk flags e.message
  | preparation {c : Config} {message : String} (hconfigure : configure env disk flags = .ok c)
      (hrefusal : Refusal c disk message) : Refused env disk flags message

/-- There is a configuration for which everything is ready, or a check fails. -/
theorem ready_or_refused (env : Environment) (disk : Disk) (flags : Flags) :
    (∃ c m, configure env disk flags = .ok c ∧ Ready c disk m) ∨
      ∃ message, Refused env disk flags message := by
  cases hconfigure : configure env disk flags with
  | error e => exact Or.inr ⟨_, .configuration hconfigure⟩
  | ok c =>
    rcases ready_or_refusal c disk with ⟨m, hready⟩ | ⟨message, hrefusal⟩
    · exact Or.inl ⟨c, m, rfl, hready⟩
    · exact Or.inr ⟨message, .preparation hconfigure hrefusal⟩

/-- A command that deploys does so at first. -/
theorem prefix_effect (hcommand : command = .deploy ∨ command = .all) (w : World) :
    ((runDeploy net c).run w).2.asked <+: ((command.effect net c).run w).2.asked := by
  rcases hcommand with rfl | rfl
  · exact List.prefix_rfl
  · exact prefix_bind (fun _ => keepsAsked_runPrepareDemo) w

/-- A command that deploys ends with a failure of the deployment. -/
theorem run_effect_of_refusal (hcommand : command = .deploy ∨ command = .all) {message : String}
    (hrefusal : Refusal c w.disk message) : (command.effect net c).run w = (.error message, w) := by
  rcases hcommand with rfl | rfl
  · exact run_runDeploy_of_refusal hrefusal
  · exact run_bind_of_error (run_runDeploy_of_refusal hrefusal)

section Running

variable (hread : Arguments.read arguments = .run command flags)
include hread

/-- The program asks what its command asks under the configuration. -/
theorem asked_run (hconfigure : configure env disk flags = .ok c) :
    (run net arguments env disk).2.asked =
      ((command.effect net c).run (.before disk)).2.asked := by
  have hcommand : (runCommand net command flags env).run (.before disk) =
      (command.effect net c).run (.before disk) :=
    run_bind_of_ok (run_reading_of_ok hconfigure)
  simp only [run, hread, hcommand]
  split <;> rename_i hrun <;> rw [hrun]

/-- The program fails with the first check of its deployment, and leaves everything as it is. -/
theorem run_of_refused (hcommand : command = .deploy ∨ command = .all) {message : String}
    (hrefused : Refused env disk flags message) :
    run net arguments env disk = (.failed message, .before disk) := by
  have hfails : (runCommand net command flags env).run (.before disk) =
      (.error message, .before disk) := by
    cases hrefused with
    | configuration hconfigure => exact run_bind_of_error (run_reading_of_error hconfigure)
    | preparation hconfigure hrefusal =>
      rw [runCommand, run_bind_of_ok (run_reading_of_ok hconfigure)]
      exact run_effect_of_refusal hcommand hrefusal
  simp only [run, hread, hfails]

/-- When everything is ready, the first question is for the chain. -/
theorem head?_asked_of_ready (hcommand : command = .deploy ∨ command = .all) {m : Manifest}
    (hconfigure : configure env disk flags = .ok c) (hready : Ready c disk m) :
    (run net arguments env disk).2.asked.head? = some (.chainId c.network.rpcUrl.text) := by
  have hasked : [.chainId c.network.rpcUrl.text] <+:
      ((command.effect net c).run (.before disk)).2.asked :=
    (asked_runDeploy hready).trans (prefix_effect hcommand (.before disk))
  obtain ⟨rest, hrest⟩ := hasked
  rw [asked_run hread hconfigure, ← hrest]
  rfl

/-- When nothing has been asked, a check has failed. -/
theorem exists_refused_of_asked_nil (hcommand : command = .deploy ∨ command = .all)
    (hasked : (run net arguments env disk).2.asked = []) :
    ∃ message, Refused env disk flags message := by
  rcases ready_or_refused env disk flags with ⟨c, m, hconfigure, hready⟩ | hrefused
  · have hfirst : (run net arguments env disk).2.asked.head? =
        some (.chainId c.network.rpcUrl.text) :=
      head?_asked_of_ready hread hcommand hconfigure hready
    rw [hasked] at hfirst
    cases hfirst
  · exact hrefused

end Running

/-- The order of the plan is printed, and nothing is asked or written. -/
theorem run_of_plan (hread : Arguments.read arguments = .run .plan flags)
    (hconfigure : configure env disk flags = .ok c) {m : Manifest} {registry : Registry} {p : Plan}
    (hmanifest : loadManifest c disk = .ok m) (hbuild : Plan.build m registry = .ok p) :
    ∃ lines, run net arguments env disk = (.finished, ⟨disk, [], lines⟩) ∧
      ShowsOrder m p.order lines := by
  obtain ⟨lines, hlines, hshows⟩ := run_runPlan_of_build (w := .before disk) hmanifest hbuild
  have hcommand : (runCommand net .plan flags env).run (.before disk) =
      (.ok (), ⟨disk, [], lines⟩) := by
    rw [runCommand, run_bind_of_ok (run_reading_of_ok hconfigure)]
    exact hlines
  refine ⟨lines, ?_, hshows⟩
  simp only [run, hread, hcommand]

/-- A command that deploys asks the network exactly when the configuration and everything else that
it checks by itself is as it should be, and then first for its chain. Otherwise it fails with the
message of the first check that is not passed, and no file is changed and no line printed. For the
same settings the order of the plan is printed, which is the plan whose codes are submitted. -/
theorem run_deploy (hread : Arguments.read arguments = .run command flags)
    (hcommand : command = .deploy ∨ command = .all) (net : Network) (env : Environment)
    (disk : Disk) :
    ((run net arguments env disk).2.asked ≠ [] ↔
      ∃ c m, configure env disk flags = .ok c ∧ Ready c disk m) ∧
    (∀ c m, configure env disk flags = .ok c → Ready c disk m →
      (run net arguments env disk).2.asked.head? = some (.chainId c.network.rpcUrl.text)) ∧
    (∀ message, run net arguments env disk = (.failed message, .before disk) ↔
      Refused env disk flags message) ∧
    ((run net arguments env disk).2.asked = [] →
      ∃ message, run net arguments env disk = (.failed message, .before disk)) ∧
    ∀ c m p, configure env disk flags = .ok c → loadManifest c disk = .ok m →
      Plan.build m (Registry.ofDirectory disk c.artifactsDir) = .ok p →
      (∀ preview, Arguments.read preview = .run .plan flags →
        ∃ lines, run net preview env disk = (.finished, ⟨disk, [], lines⟩) ∧
          ShowsOrder m p.order lines) ∧
      ∀ session key, Session.openOrNew disk c.sessionFile c.network.chainId = .ok session →
        c.network.signingKey = .ok key → net.chainId 0 = some c.network.chainId →
        .chainId c.network.rpcUrl.text ::
          (p.execute session disk (net.submitter key.address 1)).submitted.map .creation <+:
            (run net arguments env disk).2.asked := by
  have hasks {c : Config} {m : Manifest} (hconfigure : configure env disk flags = .ok c)
      (hready : Ready c disk m) :
      (run net arguments env disk).2.asked.head? = some (.chainId c.network.rpcUrl.text) :=
    head?_asked_of_ready hread hcommand hconfigure hready
  have hquiet {message : String} (hrefused : Refused env disk flags message) :
      (run net arguments env disk).2.asked = [] := by
    rw [run_of_refused hread hcommand hrefused]
    rfl
  refine ⟨⟨fun hasked => ?_, ?_⟩, fun c m => hasks, fun message => ⟨fun hrun => ?_,
    run_of_refused hread hcommand⟩, fun hasked => ?_, ?_⟩
  · rcases ready_or_refused env disk flags with hready | ⟨message, hrefused⟩
    · exact hready
    · exact absurd (hquiet hrefused) hasked
  · rintro ⟨c, m, hconfigure, hready⟩ hasked
    have hfirst := hasks hconfigure hready
    rw [hasked] at hfirst
    cases hfirst
  · obtain ⟨message', hrefused⟩ :=
      exists_refused_of_asked_nil hread hcommand (by rw [hrun]; rfl)
    have hsame := hrun.symm.trans (run_of_refused hread hcommand hrefused)
    cases hsame
    exact hrefused
  · obtain ⟨message, hrefused⟩ := exists_refused_of_asked_nil hread hcommand hasked
    exact ⟨message, run_of_refused hread hcommand hrefused⟩
  · intro c m p hconfigure hmanifest hplan
    refine ⟨fun preview hpreview => ?_, fun session key hsession hkey hchain => ?_⟩
    · exact run_of_plan hpreview hconfigure hmanifest hplan
    · rw [asked_run hread hconfigure]
      exact (asked_runDeploy_of_chain (w := .before disk) hmanifest hplan hsession hkey hchain).trans
        (prefix_effect hcommand _)

/-- Settings of a node on this machine, a manifest and a key. -/
def localEnvironment : Environment :=
  ((Environment.empty.set "DEPLOYER_RPC_URL" (utf8 "http://[::1]:8545".toList)).set
    "DEPLOYER_MANIFEST" (utf8 "units.json".toList)).set
    "DEPLOYER_PRIVATE_KEY" (utf8 ('0' :: 'x' :: List.replicate 64 '1'))

/-- An application and the library that it links. -/
def linkedManifest : Manifest where
  units := [{ name := "App", links := ["Lib"] }, { name := "Lib" }]

/-- The file of the manifest, and artifacts of some names. -/
def linkedDisk (artifacts : List String) : Disk :=
  artifacts.foldl
    (fun disk name => disk.put ("build/contracts/" ++ name ++ ".json")
      (.file (utf8 "\x7b\"bytecode\": \"0x60\"\x7d".toList)))
    (Disk.empty.put "units.json" (.file (utf8 linkedManifest.toJson.compact.toList)))

/-- A node of a chain that takes no transaction. -/
def localNetwork : Network :=
  { Network.silent with chainId := fun _ => some 7 }

/-- With both artifacts the library is submitted after the question about the chain, and it is the
first one in the printed order. Without the artifact of the application nothing is asked. -/
theorem run_deploy_of_linked :
    (run localNetwork ["--chain-id", "7", "all"] localEnvironment
      (linkedDisk ["App", "Lib"])).2.asked =
        [.chainId "http://[::1]:8545/", .creation [0x60]] ∧
    (∃ c p, configure localEnvironment (linkedDisk ["App", "Lib"]) { chainId := some 7 } = .ok c ∧
      Ready c (linkedDisk ["App", "Lib"]) linkedManifest ∧
      Plan.build linkedManifest
        (Registry.ofDirectory (linkedDisk ["App", "Lib"]) c.artifactsDir) = .ok p ∧
      ShowsOrder linkedManifest p.order
        ["Deployment order (2 units):", "   1. Lib", "   2. App  <- Lib"]) ∧
    run localNetwork ["--chain-id", "7", "all"] localEnvironment (linkedDisk ["Lib"]) =
      (.failed "no artifact for 'App' under build/contracts", .before (linkedDisk ["Lib"])) ∧
    Refused localEnvironment (linkedDisk ["Lib"]) { chainId := some 7 }
      "no artifact for 'App' under build/contracts" := by
  have hread : Arguments.read ["--chain-id", "7", "all"] = .run .all { chainId := some 7 } := by
    decide +kernel
  have hpreview : Arguments.read ["--chain-id", "7", "plan"] = .run .plan { chainId := some 7 } := by
    decide +kernel
  have hasked : (run localNetwork ["--chain-id", "7", "all"] localEnvironment
      (linkedDisk ["App", "Lib"])).2.asked =
        [.chainId "http://[::1]:8545/", .creation [0x60]] := by decide +kernel
  have hmanifest : (configure localEnvironment (linkedDisk ["App", "Lib"])
      { chainId := some 7 }).toOption.bind (fun c =>
        (loadManifest c (linkedDisk ["App", "Lib"])).toOption) = some linkedManifest := by
    decide +kernel
  have hprinted : (run localNetwork ["--chain-id", "7", "plan"] localEnvironment
      (linkedDisk ["App", "Lib"])).2.printed =
        ["Deployment order (2 units):", "   1. Lib", "   2. App  <- Lib"] := by decide +kernel
  have hnothing : (run localNetwork ["--chain-id", "7", "all"] localEnvironment
      (linkedDisk ["Lib"])).2.asked = [] := by decide +kernel
  have houtcome : (run localNetwork ["--chain-id", "7", "all"] localEnvironment
      (linkedDisk ["Lib"])).1 = .failed "no artifact for 'App' under build/contracts" := by
    decide +kernel
  refine ⟨hasked, ?_, ?_⟩
  · obtain ⟨hasks, -, -, -, hplans⟩ :=
      run_deploy hread (Or.inr rfl) localNetwork localEnvironment (linkedDisk ["App", "Lib"])
    obtain ⟨c, m, hconfigure, hready⟩ := hasks.mp (by rw [hasked]; exact List.cons_ne_nil _ _)
    obtain ⟨p, hplan⟩ := Plan.exists_build_iff.mpr ⟨hready.isSound, hready.artifacts⟩
    obtain ⟨hprints, -⟩ := hplans c m p hconfigure hready.manifest hplan
    obtain ⟨lines, hrun, hshows⟩ := hprints _ hpreview
    rw [hrun] at hprinted
    rw [hconfigure] at hmanifest
    have hloaded : some m = some linkedManifest := by
      simpa [Except.toOption, hready.manifest] using hmanifest
    cases hloaded
    cases hprinted
    exact ⟨c, p, hconfigure, hready, hplan, hshows⟩
  · obtain ⟨-, -, hrefused, hsilent, -⟩ :=
      run_deploy hread (Or.inr rfl) localNetwork localEnvironment (linkedDisk ["Lib"])
    obtain ⟨message, hrun⟩ := hsilent hnothing
    rw [hrun] at houtcome
    cases houtcome
    exact ⟨hrun, (hrefused _).mp hrun⟩

end CommandLine

end Rollout
