import Rollout.Plan.Basic
import Rollout.Proofs.Graph.Faults

/-!
# What a plan holds

A plan that could be built holds the units of its manifest in a deployment order, each with the
artifact that the registry has for it. Whatever a unit requires, directly or through other units,
stands before it.
-/

namespace Rollout

open Relation

/-- In a deployment order, all requirements of a unit stand before it, however far they reach. -/
theorem Manifest.IsDeploymentOrder.exists_mem_before {m : Manifest} {units : List Declaration}
    (horder : m.IsDeploymentOrder units) (hnodup : m.names.Nodup)
    {before after : List Declaration} {d : Declaration} (hsplit : units = before ++ d :: after)
    {name : String} (hrequires : TransGen m.Requires d.name name) :
    ∃ e ∈ before, e.name = name := by
  have hdirect : ∀ before d after next, units = before ++ d :: after → m.Requires d.name next →
      ∃ e ∈ before, e.name = next := by
    intro before d after next hsplit hnext
    obtain ⟨d', hd', hname, hdependency⟩ := hnext
    have hd : d ∈ m.units := by
      rw [← horder.perm.mem_iff, hsplit]
      exact List.mem_append_right _ List.mem_cons_self
    obtain rfl := Manifest.eq_of_mem_of_name_eq hnodup hd' hd hname
    exact horder.after_dependencies before d' after hsplit next hdependency
  induction hrequires with
  | single hnext => exact hdirect before d after _ hsplit hnext
  | tail _ hnext ih =>
    obtain ⟨e, he, rfl⟩ := ih
    obtain ⟨earlier, between, rfl⟩ := List.append_of_mem he
    obtain ⟨e', he', hname⟩ :=
      hdirect earlier e (between ++ d :: after) _ (by simpa using hsplit) hnext
    exact ⟨e', List.mem_append_left _ he', hname⟩

namespace Plan

/-- The plan is one of a sound manifest: its units are those of the manifest, in a deployment
order, and each has the artifact of its name. -/
structure IsPlanOf (p : Plan) (m : Manifest) (registry : Registry) : Prop where
  nodup_names : m.names.Nodup
  isDeploymentOrder : m.IsDeploymentOrder (p.units.map (·.declaration))
  artifact_eq : ∀ u ∈ p.units, registry u.declaration.artifactName = .ok u.artifact

variable {p : Plan} {m : Manifest} {registry : Registry}

/-- A loaded unit keeps its declaration and has the artifact of its name. -/
theorem loadUnit_eq_ok {d : Declaration} {u : PlannedUnit} :
    loadUnit registry d = .ok u ↔ u.declaration = d ∧ registry d.artifactName = .ok u.artifact := by
  simp only [loadUnit, map_eq_ok, mapError_eq_ok]
  constructor
  · rintro ⟨artifact, hartifact, rfl⟩
    exact ⟨rfl, hartifact⟩
  · rintro ⟨rfl, hartifact⟩
    exact ⟨u.artifact, hartifact, rfl⟩

/-- Loaded units keep their declarations and have the artifacts of their names. -/
theorem mapM_loadUnit_eq_ok {units : List Declaration} {planned : List PlannedUnit} :
    units.mapM (loadUnit registry) = .ok planned ↔ planned.map (·.declaration) = units ∧
      ∀ u ∈ planned, registry u.declaration.artifactName = .ok u.artifact := by
  rw [mapM_eq_ok]
  induction planned generalizing units with
  | nil => simp [eq_comm]
  | cons u planned ih =>
    rw [List.forall₂_cons_right_iff, List.map_cons, List.forall_mem_cons]
    constructor
    · rintro ⟨d, units, hload, hloads, rfl⟩
      obtain ⟨rfl, hartifact⟩ := loadUnit_eq_ok.mp hload
      obtain ⟨rfl, hartifacts⟩ := ih.mp hloads
      exact ⟨rfl, hartifact, hartifacts⟩
    · rintro ⟨rfl, hartifact, hartifacts⟩
      exact ⟨_, _, loadUnit_eq_ok.mpr ⟨rfl, hartifact⟩, ih.mpr ⟨rfl, hartifacts⟩, rfl⟩

/-- The plan that is built for a manifest is a plan of it. -/
theorem isPlanOf_of_build (hbuild : Plan.build m registry = .ok p) : p.IsPlanOf m registry := by
  rw [build] at hbuild
  obtain ⟨g, hgraph, hbuild⟩ := bind_eq_ok.mp hbuild
  obtain ⟨units, horder, hbuild⟩ := bind_eq_ok.mp hbuild
  obtain ⟨planned, hplanned, hp⟩ := bind_eq_ok.mp hbuild
  cases hp
  have hg := Graph.represents_of_ofManifest (mapError_eq_ok.mp hgraph)
  have hdeployment := Graph.isDeploymentOrder_of_order hg (mapError_eq_ok.mp horder)
  obtain ⟨rfl, hartifacts⟩ := mapM_loadUnit_eq_ok.mp hplanned
  exact ⟨hg.nodup_names, hdeployment, hartifacts⟩

/-- A plan is built from the order of its manifest. -/
theorem build_eq : Plan.build m registry =
    ((Graph.ofManifest m >>= Graph.order).mapError .graph >>= fun units =>
      (units.mapM (loadUnit registry)).map Plan.mk) := by
  rw [build]
  cases Graph.ofManifest m with
  | error e => rfl
  | ok g => cases g.order <;> rfl

/-- A unit is loaded when its artifact is. -/
theorem exists_loadUnit_iff {d : Declaration} : (∃ u, loadUnit registry d = .ok u) ↔
    ∃ artifact, registry d.artifactName = .ok artifact := by
  simp [loadUnit, map_eq_ok, mapError_eq_ok]

/-- No plan can be built when the manifest has a fault, or else when an artifact cannot be loaded;
the first such unit in the order of deployment decides the error. -/
theorem build_eq_error {failure : Failure} : Plan.build m registry = .error failure ↔
    (∃ e, m.Fault e ∧ failure = .graph e) ∨
      ∃ before d after e, (Graph.ofManifest m >>= Graph.order) = .ok (before ++ d :: after) ∧
        (∀ earlier ∈ before, ∃ artifact, registry earlier.artifactName = .ok artifact) ∧
        registry d.artifactName = .error e ∧ failure = .artifact e := by
  have hfail (d : Declaration) : loadUnit registry d = .error failure ↔
      ∃ e, registry d.artifactName = .error e ∧ failure = .artifact e := by
    simp only [loadUnit, map_eq_error, mapError_eq_error, eq_comm (a := failure)]
  rw [build_eq, bind_eq_error]
  simp only [mapError_eq_error, mapError_eq_ok, Graph.bind_order_eq_error, map_eq_error,
    mapM_eq_error, exists_loadUnit_iff, hfail, eq_comm (a := failure)]
  constructor
  · rintro (hfault | ⟨units, horder, before, d, after, rfl, hbefore, e, hartifact, he⟩)
    · exact Or.inl hfault
    · exact Or.inr ⟨before, d, after, e, horder, hbefore, hartifact, he⟩
  · rintro (hfault | ⟨before, d, after, e, horder, hbefore, hartifact, he⟩)
    · exact Or.inl hfault
    · exact Or.inr ⟨_, horder, before, d, after, rfl, hbefore, e, hartifact, he⟩

/-- A plan can be built exactly when the manifest is sound and all artifacts can be loaded. -/
theorem exists_build_iff : (∃ p, Plan.build m registry = .ok p) ↔
    m.IsSound ∧ ∀ d ∈ m.units, ∃ artifact, registry d.artifactName = .ok artifact := by
  have hsame {units : List Declaration} (horder : (Graph.ofManifest m >>= Graph.order) = .ok units)
      (d : Declaration) : d ∈ units ↔ d ∈ m.units := by
    obtain ⟨g, hok, horder⟩ := bind_eq_ok.mp horder
    have hg := Graph.represents_of_ofManifest hok
    exact (Graph.isDeploymentOrder_of_order hg horder).perm.mem_iff
  simp only [build_eq, bind_eq_ok, mapError_eq_ok, map_eq_ok, ← exists_loadUnit_iff]
  constructor
  · rintro ⟨p, units, horder, planned, hplanned, -⟩
    have horder := bind_eq_ok.mpr horder
    refine ⟨Graph.exists_bind_order_iff.mp ⟨units, horder⟩, fun d hd => ?_⟩
    exact exists_mapM_eq_ok.mp ⟨planned, hplanned⟩ d ((hsame horder d).mpr hd)
  · rintro ⟨hsound, hartifacts⟩
    obtain ⟨units, horder⟩ := Graph.exists_bind_order_iff.mpr hsound
    obtain ⟨planned, hplanned⟩ := exists_mapM_eq_ok.mpr fun d hd =>
      hartifacts d ((hsame horder d).mp hd)
    exact ⟨⟨planned⟩, units, bind_eq_ok.mp horder, planned, hplanned, rfl⟩

/-- The units of a plan have distinct names. -/
theorem IsPlanOf.nodup_order (hp : p.IsPlanOf m registry) : p.order.Nodup := by
  have hperm := hp.isDeploymentOrder.perm.map (·.name)
  rw [List.map_map] at hperm
  exact hperm.nodup_iff.mpr hp.nodup_names

/-- Whatever a unit of a plan requires stands before it. -/
theorem IsPlanOf.exists_mem_before (hp : p.IsPlanOf m registry)
    {before after : List PlannedUnit} {u : PlannedUnit} (hsplit : p.units = before ++ u :: after)
    {name : String} (hrequires : TransGen m.Requires u.name name) :
    ∃ v ∈ before, v.name = name := by
  have hdeclarations : p.units.map (·.declaration) = before.map (·.declaration) ++
      u.declaration :: after.map (·.declaration) := by
    rw [hsplit, List.map_append, List.map_cons]
  obtain ⟨d, hd, hname⟩ :=
    hp.isDeploymentOrder.exists_mem_before hp.nodup_names hdeclarations hrequires
  obtain ⟨v, hv, rfl⟩ := List.mem_map.mp hd
  exact ⟨v, hv, hname⟩

/-- A unit of a plan requires its dependencies. -/
theorem IsPlanOf.requires (hp : p.IsPlanOf m registry) {u : PlannedUnit} (hu : u ∈ p.units)
    {name : String} (hname : name ∈ u.declaration.dependencies) : m.Requires u.name name :=
  ⟨u.declaration, hp.isDeploymentOrder.perm.subset (List.mem_map_of_mem hu), rfl, hname⟩

end Plan

end Rollout
