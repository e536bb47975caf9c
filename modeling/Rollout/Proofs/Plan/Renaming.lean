import Mathlib.Logic.Equiv.Basic
import Rollout.Proofs.Graph.Renaming
import Rollout.Proofs.Plan.Course
import Rollout.Proofs.Storage.Writing

/-!
# Renamed plans

Units can be given other names without any effect on what is deployed, as long as the libraries that
are linked keep theirs. The name of a library is more than a label: it is what the placeholders and
the offsets of a template are looked up by.
-/

namespace Rollout

variable {f : String → String}

/-- The handle after a change of unit names. -/
def Handle.rename (f : String → String) (h : Handle) : Handle :=
  { h with name := f h.name }

/-- The link error after a change of unit names. The placeholder is part of the code. -/
def LinkError.rename (f : String → String) : LinkError → LinkError
  | .unresolved unit dependency => .unresolved (f unit) (f dependency)
  | .unlinkedPlaceholder unit placeholder => .unlinkedPlaceholder (f unit) placeholder
  | .invalidBytecode unit cause => .invalidBytecode (f unit) cause
  | .offsetOutOfRange unit library => .offsetOutOfRange (f unit) (f library)

/-- The deployment error after a change of unit names. -/
def DeploymentError.rename (f : String → String) : DeploymentError → DeploymentError
  | .submission unit causes => .submission (f unit) causes
  | .reverted unit txHash => .reverted (f unit) txHash
  | .missingAddress unit txHash => .missingAddress (f unit) txHash
  | .encoding unit cause => .encoding (f unit) cause

/-- The session error after a change of unit names. -/
def SessionError.rename (f : String → String) : SessionError → SessionError
  | .alreadyRecorded unit => .alreadyRecorded (f unit)
  | other => other

/-- The failure after a change of unit names. Artifacts keep their names. -/
def Failure.rename (f : String → String) : Failure → Failure
  | .graph error => .graph (error.rename f)
  | .deployment error => .deployment (error.rename f)
  | .link error => .link (error.rename f)
  | .session error => .session (error.rename f)
  | other => other

/-- A changed graph error is a changed failure. -/
theorem mapError_graph_rename {α β : Type} (g : α → β) (x : Except GraphError α) :
    (mapBoth (GraphError.rename f) g x).mapError Failure.graph =
      mapBoth (Failure.rename f) g (x.mapError .graph) := by
  cases x <;> rfl

/-- A changed link error is a changed failure. -/
theorem mapError_link_rename {α β : Type} (g : α → β) (x : Except LinkError α) :
    (mapBoth (LinkError.rename f) g x).mapError Failure.link =
      mapBoth (Failure.rename f) g (x.mapError .link) := by
  cases x <;> rfl

namespace Session

/-- The session after a change of unit names. -/
def rename (f : String → String) (s : Session) : Session :=
  { s with handles := s.handles.map (Handle.rename f) }

/-- The renamed session contains the renamed units. -/
theorem contains_rename (hf : Function.Injective f) (s : Session) (name : String) :
    (s.rename f).contains (f name) = s.contains name := by
  simp [contains, rename, Handle.rename, List.any_map, Function.comp_def, hf.beq_eq]

/-- The renamed units have the same addresses in the renamed session. -/
theorem resolve_rename (hf : Function.Injective f) (s : Session) (unit name : String) :
    (s.rename f).resolve (f unit) (f name) =
      mapBoth (LinkError.rename f) id (s.resolve unit name) := by
  have hget : (s.rename f).get? (f name) = (s.get? name).map (Handle.rename f) := by
    simp [get?, rename, Handle.rename, List.find?_map, Function.comp_def, hf.beq_eq]
  rw [resolve, resolve, hget]
  cases s.get? name <;> rfl

/-- The renamed session gains the renamed handle. -/
theorem holding_rename (s : Session) (handle : Handle) :
    (s.rename f).holding (handle.rename f) = (s.holding handle).rename f := by
  simp [rename, holding]

/-- Writing the renamed session has the same outcome, on a disk that is alike. -/
theorem flush_rename {disk disk' after : Disk} (halike : disk.Alike disk') {s : Session}
    {outcome : Except SessionError Unit} (hflush : s.flush disk = (outcome, after)) :
    ∃ after', (s.rename f).flush disk' = (outcome, after') ∧ after.Alike after' := by
  unfold flush at hflush ⊢
  rw [show (s.rename f).file? = s.file? from rfl]
  cases hfile : s.file? with
  | none =>
    rw [hfile] at hflush
    cases hflush
    exact ⟨disk', rfl, halike⟩
  | some path =>
    rw [hfile] at hflush
    obtain ⟨houtcome, hdisk⟩ := halike.write path (utf8 s.fileText.toList)
      (utf8 (s.rename f).fileText.toList)
    cases hflush
    exact ⟨_, Prod.ext (congrArg (Except.mapError (SessionError.io path)) houtcome) rfl, hdisk⟩

end Session

/-- The unit after a change of unit names. -/
def PlannedUnit.rename (f : String → String) (u : PlannedUnit) : PlannedUnit :=
  ⟨u.declaration.rename f, u.artifact⟩

/-- On behalf of a renamed unit, a library is linked in the same way. -/
theorem Template.link_rename (t : Template) (unit : String) {library : String}
    (hlibrary : f library = library) (source : Option String) (address : Address) :
    t.link (f unit) library source address =
      (mapBoth (LinkError.rename f) id (t.link unit library source address).1,
        (t.link unit library source address).2) := by
  unfold link
  dsimp only
  split <;> simp [LinkError.rename, hlibrary]

/-- The code of a renamed unit is the same. -/
theorem Template.toBytes_rename (t : Template) (unit : String) :
    t.toBytes (f unit) = mapBoth (LinkError.rename f) id (t.toBytes unit) := by
  unfold toBytes
  split
  · rfl
  · cases Hex.decode t.text <;> rfl

/-- Two executions submit the same codes and end in the same way, up to a change of unit names. -/
structure Execution.Corresponds (f : String → String) (e e' : Execution) : Prop where
  submitted_eq : e'.submitted = e.submitted
  outcome_eq : e'.outcome = mapBoth (Failure.rename f) (List.map (Handle.rename f)) e.outcome
  session_eq : e'.session = e.session.rename f

namespace Plan

/-- The plan after a change of unit names. -/
def rename (f : String → String) (p : Plan) : Plan :=
  ⟨p.units.map (PlannedUnit.rename f)⟩

/-- The renamed manifest has the renamed plan, or fails to have one like the manifest. -/
theorem build_rename (hf : Function.Injective f) (m : Manifest) (registry : Registry) :
    build (m.rename f) registry = mapBoth (Failure.rename f) (rename f) (build m registry) := by
  have hload (d : Declaration) : loadUnit registry (d.rename f) =
      mapBoth (Failure.rename f) (PlannedUnit.rename f) (loadUnit registry d) := by
    rw [loadUnit, loadUnit, Declaration.artifactName_rename]
    cases registry d.artifactName <;> rfl
  rw [build, build, Graph.ofManifest_rename hf, mapError_graph_rename]
  refine mapBoth_bind fun g => ?_
  rw [Graph.order_rename, mapError_graph_rename]
  refine mapBoth_bind fun order => ?_
  rw [mapM_map_eq_mapBoth fun d _ => hload d]
  exact mapBoth_bind fun units => rfl

variable {p : Plan} {units : List PlannedUnit} {session : Session} {disk disk' : Disk}
  {submitter : Submitter} {u : PlannedUnit} {e : Execution}

/-- The source of a renamed unit is the same. -/
theorem sourceOf_rename (hf : Function.Injective f) (p : Plan) (name : String) :
    (p.rename f).sourceOf (f name) = p.sourceOf name := by
  have hunit : (p.rename f).unit? (f name) = (p.unit? name).map (PlannedUnit.rename f) := by
    simp [unit?, rename, PlannedUnit.rename, PlannedUnit.name, Declaration.rename, List.find?_map,
      Function.comp_def, hf.beq_eq]
  rw [sourceOf, sourceOf, hunit]
  cases p.unit? name <;> rfl

/-- A library that keeps its name is linked in the same way. -/
theorem linkLibrary_rename (hf : Function.Injective f) (session : Session) (unit : String)
    (t : Template) {library : String} (hlibrary : f library = library) :
    (p.rename f).linkLibrary (session.rename f) (f unit) t (f library) =
      mapBoth (Failure.rename f) id (p.linkLibrary session unit t library) := by
  rw [linkLibrary, linkLibrary, Session.resolve_rename hf, sourceOf_rename hf]
  cases session.resolve unit library with
  | error e => rfl
  | ok address =>
    simp only [mapBoth_ok, id, Except.mapError, bind, Except.bind, hlibrary,
      t.link_rename unit hlibrary]
    rcases t.link unit library _ address with ⟨_ | _, t'⟩ <;> rfl

/-- The linked code of a renamed unit is the same, if its libraries keep their names. -/
theorem linkedCode_rename (hf : Function.Injective f) (session : Session)
    (hlibraries : ∀ library ∈ u.declaration.links, f library = library) :
    (p.rename f).linkedCode (session.rename f) (u.rename f) =
      mapBoth (Failure.rename f) id (p.linkedCode session u) := by
  have hlinks := foldlM_map_eq_mapBoth (g := id) (fun library hlibrary t =>
    linkLibrary_rename (p := p) hf session u.name t (hlibraries library hlibrary))
    u.artifact.bytecode
  have hbytes (t : Template) : (t.toBytes (f u.name)).mapError Failure.link =
      mapBoth (Failure.rename f) id ((t.toBytes u.name).mapError .link) := by
    rw [Template.toBytes_rename, mapError_link_rename]
  rw [linkedCode, linkedCode]
  exact (congrArg (· >>= _) hlinks).trans (mapBoth_bind hbytes)

/-- The constructor arguments of a renamed unit are the same. -/
theorem encodedArguments_rename (hf : Function.Injective f) (session : Session) (sender : Address)
    (u : PlannedUnit) : encodedArguments (session.rename f) sender (u.rename f) =
      mapBoth (Failure.rename f) id (encodedArguments session sender u) := by
  have hresolve (a : Argument) :
      (a.rename f).resolve sender ((session.rename f).resolve (f u.name)) =
        mapBoth (LinkError.rename f) id (a.resolve sender (session.resolve u.name)) := by
    cases a with
    | unit name =>
      simp only [Argument.rename, Argument.resolve, Session.resolve_rename hf]
      cases session.resolve u.name name <;> rfl
    | _ => rfl
  have harguments : Argument.resolveAll sender ((session.rename f).resolve (f u.name))
        (u.declaration.args.map (Argument.rename f)) =
      mapBoth (LinkError.rename f) (List.map id)
        (Argument.resolveAll sender (session.resolve u.name) u.declaration.args) :=
    mapM_map_eq_mapBoth fun a _ => hresolve a
  have hencoded (arguments : List ResolvedArgument) :
      ((u.rename f).artifact.interface.encodeConstructor arguments).mapError
        (fun cause => Failure.deployment (.encoding (f u.name) cause)) =
        mapBoth (Failure.rename f) id ((u.artifact.interface.encodeConstructor arguments).mapError
          fun cause => .deployment (.encoding u.name cause)) := by
    rw [PlannedUnit.rename]
    cases u.artifact.interface.encodeConstructor arguments <;> rfl
  have hresolved := congrArg (Except.mapError Failure.link) harguments
  rw [List.map_id_fun, mapError_link_rename] at hresolved
  exact (congrArg (· >>= _) hresolved).trans (mapBoth_bind hencoded)

/-- The code of a renamed unit is the same, if its libraries keep their names. -/
theorem creationCode_rename (hf : Function.Injective f)
    (hlibraries : ∀ library ∈ u.declaration.links, f library = library) {sender : Address}
    {outcome : Except Failure (List UInt8)}
    (hcode : p.creationCode session sender u = outcome) :
    (p.rename f).creationCode (session.rename f) sender (u.rename f) =
      mapBoth (Failure.rename f) id outcome := by
  rw [← hcode, creationCode, creationCode, linkedCode_rename hf session hlibraries,
    encodedArguments_rename hf]
  exact mapBoth_bind fun code => mapBoth_bind fun arguments => rfl

/-- An answer to a renamed unit yields the renamed handle. -/
theorem settle_rename {answer : Answer} {outcome : Except DeploymentError Handle}
    (hsettle : settle u.name answer = outcome) :
    settle (u.rename f).name answer =
      mapBoth (DeploymentError.rename f) (Handle.rename f) outcome := by
  rw [← hsettle]
  unfold settle
  split
  · rfl
  · split
    · split <;> rfl
    · rfl

/-- A new unit is new under its new name. -/
theorem not_contains_rename (hf : Function.Injective f) (hnew : ¬ session.contains u.name) :
    ¬ (session.rename f).contains (u.rename f).name := by
  rwa [show (u.rename f).name = f u.name from rfl, Session.contains_rename hf]

/-- The run over renamed units corresponds to the run over the units, if all libraries keep their
names. The sessions write different files, but on disks that are alike. -/
theorem Runs.rename (hf : Function.Injective f) (hruns : Runs p units session disk submitter e)
    (hlibraries : ∀ u ∈ units, ∀ library ∈ u.declaration.links, f library = library)
    (halike : disk.Alike disk') :
    ∃ e', Runs (p.rename f) (units.map (PlannedUnit.rename f)) (session.rename f) disk' submitter
      e' ∧ e.Corresponds f e' := by
  induction hruns generalizing disk' with
  | done => exact ⟨_, Runs.done, rfl, rfl, rfl⟩
  | @skipped u _ session _ _ _ hcontains _ ih =>
    obtain ⟨e', hruns', hcorresponds⟩ := ih (List.forall_mem_cons.mp hlibraries).2 halike
    refine ⟨e', Runs.skipped ?_ hruns', hcorresponds⟩
    exact (Session.contains_rename hf session u.name).trans hcontains
  | unbuilt hnew hcode =>
    have hfirst := (List.forall_mem_cons.mp hlibraries).1
    exact ⟨_, Runs.unbuilt (not_contains_rename hf hnew) (creationCode_rename hf hfirst hcode), rfl,
      rfl, rfl⟩
  | unsettled hnew hcode hsettle =>
    have hfirst := (List.forall_mem_cons.mp hlibraries).1
    exact ⟨_, Runs.unsettled (not_contains_rename hf hnew) (creationCode_rename hf hfirst hcode)
      (settle_rename hsettle), rfl, rfl, rfl⟩
  | unwritten hnew hcode hsettle hflush =>
    have hfirst := (List.forall_mem_cons.mp hlibraries).1
    obtain ⟨path, cause, rfl⟩ := Session.flush_eq_error (congrArg Prod.fst hflush)
    obtain ⟨after, hflush', -⟩ := Session.flush_rename (f := f) halike hflush
    rw [← Session.holding_rename] at hflush'
    exact ⟨_, Runs.unwritten (not_contains_rename hf hnew) (creationCode_rename hf hfirst hcode)
      (settle_rename hsettle) hflush', rfl, rfl, Session.holding_rename _ _⟩
  | @deployed _ _ _ _ _ _ code _ e hnew hcode hsettle hflush _ ih =>
    obtain ⟨hfirst, hrest⟩ := List.forall_mem_cons.mp hlibraries
    obtain ⟨after, hflush', halike'⟩ := Session.flush_rename (f := f) halike hflush
    obtain ⟨e', hruns', hsubmitted, houtcome, hsession⟩ := ih hrest halike'
    rw [← Session.holding_rename] at hflush' hruns'
    refine ⟨_, Runs.deployed (not_contains_rename hf hnew) (creationCode_rename hf hfirst hcode)
      (settle_rename hsettle) hflush' hruns', congrArg (code :: ·) hsubmitted, ?_, hsession⟩
    simp only [Execution.after, houtcome]
    cases e.outcome <;> rfl

/-- Renaming the units of a manifest renames its plan, or the failure to build one. If all libraries
that are linked keep their names, the two plans, executed on a session without handles against the
same submitter, submit the same codes and end in the same way: with the same handles or the same
failure, up to the names. -/
theorem execute_rename (hf : Function.Injective f) (m : Manifest) (registry : Registry) :
    build (m.rename f) registry = mapBoth (Failure.rename f) (rename f) (build m registry) ∧
    ∀ p, build m registry = .ok p →
      (∀ d ∈ m.units, ∀ library ∈ d.links, f library = library) →
      ∀ (session : Session) (disk : Disk) (submitter : Submitter), session.handles = [] →
        (p.execute session disk submitter).Corresponds f
          ((p.rename f).execute session disk submitter) := by
  refine ⟨build_rename hf m registry, fun p hbuild hlibraries session disk submitter hempty => ?_⟩
  have hunits : ∀ u ∈ p.units, ∀ library ∈ u.declaration.links, f library = library := by
    intro u hu
    have hperm := (isPlanOf_of_build hbuild).isDeploymentOrder.perm
    exact hlibraries _ (hperm.subset (List.mem_map_of_mem hu))
  have hsession : session.rename f = session := by
    rw [Session.rename, hempty, List.map_nil, ← hempty]
  obtain ⟨e', hruns, hcorresponds⟩ :=
    (p.runs_executeUnits p.units session disk submitter).rename hf hunits (Disk.Alike.refl disk)
  rw [hsession] at hruns
  rw [hruns.eq_executeUnits] at hcorresponds
  exact hcorresponds

/-- The contract can be given another name. -/
theorem execute_rename_of_stacked :
    ∃ p, build stacked stackedRegistry = .ok p ∧
      let f := Equiv.swap "App" "Main"
      build (stacked.rename f) stackedRegistry = .ok (p.rename f) ∧
      (p.rename f).order = ["Base", "Lib", "Main"] ∧
      (p.execute (Session.new 1) .empty (.confirming (Address.repeating 9))).Corresponds f
        ((p.rename f).execute (Session.new 1) .empty (.confirming (Address.repeating 9))) := by
  obtain ⟨p, hbuild, horder⟩ : ∃ p, build stacked stackedRegistry = .ok p ∧
      (p.rename (Equiv.swap "App" "Main")).order = ["Base", "Lib", "Main"] :=
    ⟨_, rfl, by decide⟩
  have hlibraries : ∀ d ∈ stacked.units, ∀ library ∈ d.links,
      Equiv.swap "App" "Main" library = library := by decide
  obtain ⟨hrename, hexecute⟩ :=
    execute_rename (Equiv.swap "App" "Main").injective stacked stackedRegistry
  rw [hbuild] at hrename
  exact ⟨p, hbuild, hrename, horder, hexecute p hbuild hlibraries _ _ _ rfl⟩

/-- A library cannot be given another name, although it still loads the same artifact: the code of
the contract keeps the placeholder that spells the old name. -/
theorem not_corresponds_of_renamed_library :
    ∃ p, build stacked stackedRegistry = .ok p ∧
      let f := Equiv.swap "Lib" "Math"
      let e := p.execute (Session.new 1) .empty (.confirming (Address.repeating 9))
      let e' := (p.rename f).execute (Session.new 1) .empty (.confirming (Address.repeating 9))
      Function.Injective f ∧ build (stacked.rename f) stackedRegistry = .ok (p.rename f) ∧
      (∃ handles, e.outcome = .ok handles) ∧
      e'.outcome = .error (.link (.unlinkedPlaceholder "App"
        "__Lib___________________________________")) ∧
      ¬ e.Corresponds f e' := by
  obtain ⟨p, hbuild, hrename, hok, herror⟩ : ∃ p, build stacked stackedRegistry = .ok p ∧
      let f := Equiv.swap "Lib" "Math"
      let e := p.execute (Session.new 1) .empty (.confirming (Address.repeating 9))
      let e' := (p.rename f).execute (Session.new 1) .empty (.confirming (Address.repeating 9))
      build (stacked.rename f) stackedRegistry = .ok (p.rename f) ∧
      (∃ handles, e.outcome = .ok handles) ∧
      e'.outcome = .error (.link (.unlinkedPlaceholder "App"
        "__Lib___________________________________")) :=
    ⟨_, rfl, rfl, ⟨_, rfl⟩, rfl⟩
  refine ⟨p, hbuild, (Equiv.swap "Lib" "Math").injective, hrename, hok, herror, fun hsame => ?_⟩
  obtain ⟨handles, hok⟩ := hok
  rw [hsame.outcome_eq, hok] at herror
  cases herror

end Plan

end Rollout
