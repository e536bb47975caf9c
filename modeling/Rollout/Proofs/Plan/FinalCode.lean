import Rollout.Proofs.Plan.Build
import Rollout.Proofs.Plan.CreationCode
import Rollout.Proofs.Plan.Runs
import Rollout.Proofs.Sequence

/-!
# Submitted codes at the end of an execution

Every code is built from the session of its moment. Handles never change afterwards, so it is also
the code that the last session builds for its unit.
-/

namespace Rollout

open Relation

namespace Plan

variable {p : Plan} {m : Manifest} {registry : Registry} {units : List PlannedUnit}
  {session : Session} {disk : Disk} {submitter : Submitter} {u : PlannedUnit} {e : Execution}

/-- The units that a session does not hold. -/
def unrecorded (session : Session) (units : List PlannedUnit) : List PlannedUnit :=
  units.filter fun u => !session.contains u.name

/-- A unit that is recorded is no unrecorded one. -/
theorem unrecorded_of_contains (hcontains : session.contains u.name) :
    unrecorded session (u :: units) = unrecorded session units :=
  List.filter_cons_of_neg (by simpa using hcontains)

/-- A new unit is the first of the unrecorded ones. -/
theorem unrecorded_of_new (hnew : ¬ session.contains u.name) :
    unrecorded session (u :: units) = u :: unrecorded session units :=
  List.filter_cons_of_pos (by simpa using hnew)

/-- A handle of a unit with another name leaves the same units unrecorded. -/
theorem unrecorded_holding {handle : Handle} (hname : ∀ v ∈ units, v.name ≠ handle.name) :
    unrecorded (session.holding handle) units = unrecorded session units := by
  apply List.filter_congr
  intro v hv
  have hcontains : (session.holding handle).contains v.name ↔ session.contains v.name := by
    rw [Session.contains_holding, or_iff_left (hname v hv).symm]
  rw [Bool.eq_iff_iff.mpr hcontains]

/-- A run submits codes for the first of the unrecorded units, in their order, and each of them is
the code that the last session builds for its unit. -/
theorem Runs.exists_deployed (hruns : Runs p units session disk submitter e)
    (hnodup : (units.map (·.name)).Nodup) :
    ∃ deployed, deployed <+: unrecorded session units ∧
      List.Forall₂ (fun u code => p.creationCode e.session submitter.sender u = .ok code)
        deployed e.submitted := by
  induction hruns with
  | done => exact ⟨[], List.nil_prefix, List.Forall₂.nil⟩
  | skipped hcontains _ ih =>
    obtain ⟨deployed, hdeployed, hcodes⟩ := ih (List.nodup_cons.mp hnodup).2
    rw [unrecorded_of_contains hcontains]
    exact ⟨deployed, hdeployed, hcodes⟩
  | unbuilt => exact ⟨[], List.nil_prefix, List.Forall₂.nil⟩
  | unsettled hnew hcode =>
    rw [unrecorded_of_new hnew]
    exact ⟨[_], List.prefix_append [_] _, List.Forall₂.cons hcode List.Forall₂.nil⟩
  | unwritten hnew hcode =>
    rw [unrecorded_of_new hnew]
    refine ⟨[_], List.prefix_append [_] _, List.Forall₂.cons ?_ List.Forall₂.nil⟩
    exact creationCode_mono (Session.prefix_holding _ _) hcode
  | deployed hnew hcode hsettle _ hrest ih =>
    obtain ⟨hname, hnodup⟩ := List.nodup_cons.mp hnodup
    obtain ⟨deployed, hdeployed, hcodes⟩ := ih hnodup
    have hlast := creationCode_mono ((Session.prefix_holding _ _).trans hrest.prefix_handles) hcode
    rw [unrecorded_holding fun v hv hsame =>
      hname (List.mem_map.mpr ⟨v, hv, hsame.trans (settle_name hsettle)⟩)] at hdeployed
    rw [unrecorded_of_new hnew]
    exact ⟨_ :: deployed, List.cons_prefix_cons.mpr ⟨rfl, hdeployed⟩,
      List.Forall₂.cons hlast hcodes⟩

/-- The source of a unit in a plan is that of its artifact. -/
theorem IsPlanOf.sourceOf_eq (hp : p.IsPlanOf m registry) (hu : u ∈ p.units) :
    p.sourceOf u.name = u.artifact.sourceName := by
  have hfound : p.unit? u.name = some u := find?_of_nodup_map hp.nodup_order hu
  rw [sourceOf, hfound, Option.bind_some]

/-- A library that a unit links has a source in the plan, which is that of its own artifact. -/
theorem IsPlanOf.exists_source (hp : p.IsPlanOf m registry) (hu : u ∈ p.units) {library : String}
    (hlibrary : library ∈ u.declaration.links) :
    ∃ v ∈ p.units, v.name = library ∧ p.sourceOf library = v.artifact.sourceName := by
  obtain ⟨before, after, hsplit⟩ := List.append_of_mem hu
  have hrequires := hp.requires hu (List.mem_append_left _ hlibrary)
  obtain ⟨v, hv, rfl⟩ := hp.exists_mem_before hsplit (TransGen.single hrequires)
  have hmem : v ∈ p.units := by
    rw [hsplit]
    exact List.mem_append_left _ hv
  exact ⟨v, hmem, rfl, hp.sourceOf_eq hmem⟩

/-- Whenever a built plan is executed, on whatever session, the submitted codes belong to the first
of the units that the session does not hold. Each is built from the artifact that the registry has
for the unit, and from the addresses in the session at the end of the execution: the libraries are
linked at them in order, under the sources of their own artifacts, and they replace the references
among the arguments. -/
theorem submitted_codes (hbuild : Plan.build m registry = .ok p) (session : Session) (disk : Disk)
    (submitter : Submitter) :
    ∃ deployed, deployed <+: unrecorded session p.units ∧
      List.Forall₂ (fun u code =>
        (registry u.declaration.artifactName = .ok u.artifact ∧
          ∀ library ∈ u.declaration.links, ∃ v ∈ p.units, v.name = library ∧
            p.sourceOf library = v.artifact.sourceName) ∧
        ∃ address, (p.execute session disk submitter).session.Assigns address
            u.declaration.dependencies ∧
          p.IsCreationCode u submitter.sender address code)
        deployed (p.execute session disk submitter).submitted := by
  have hp := isPlanOf_of_build hbuild
  obtain ⟨deployed, hdeployed, hcodes⟩ :=
    (p.runs_executeUnits p.units session disk submitter).exists_deployed hp.nodup_order
  have hunits : ∀ u ∈ deployed, u ∈ p.units := fun u hu =>
    List.mem_of_mem_filter (hdeployed.subset hu)
  refine ⟨deployed, hdeployed, (List.forall₂_and_left _ _).mpr ⟨fun u hu => ?_, ?_⟩⟩
  · exact ⟨hp.artifact_eq u (hunits u hu), fun library => hp.exists_source (hunits u hu)⟩
  · refine hcodes.imp fun u code hcode => ?_
    obtain ⟨address, hassigns⟩ := Session.exists_assigns_iff.mpr (contains_of_creationCode hcode)
    exact ⟨address, hassigns, (creationCode_eq_ok hassigns).mp hcode⟩

/-- A contract that links a library and takes its address and that of the deployer. -/
def linked : Manifest :=
  ⟨[{ name := "App", links := ["Lib"], args := [.unit "Lib", .deployer] }, { name := "Lib" }]⟩

/-- The contract has a placeholder and a constructor; every other name stands for a library. -/
def linkedRegistry : Registry := fun name =>
  if name = "App" then
    .ok ⟨name, none, ⟨some [⟨"address", "library", []⟩, ⟨"address", "owner", []⟩]⟩,
      ⟨['6', '0'] ++ legacyPlaceholder "Lib".toList, []⟩⟩
  else .ok ⟨name, none, .empty, ⟨['6', '0'], []⟩⟩

/-- The library is submitted first and then the contract, both with the codes that the last session
builds for them. -/
theorem submitted_codes_of_linked :
    ∃ p deployed, Plan.build linked linkedRegistry = .ok p ∧
      deployed.map (·.name) = ["Lib", "App"] ∧
      let sender := Address.repeating 9
      let e := p.execute (Session.new 1) .empty (.confirming sender)
      List.Forall₂ (fun u code => ∃ address, e.session.Assigns address u.declaration.dependencies ∧
        p.IsCreationCode u sender address code) deployed e.submitted := by
  obtain ⟨p, hbuild, hnames, hlength⟩ : ∃ p, Plan.build linked linkedRegistry = .ok p ∧
      (unrecorded (Session.new 1) p.units).map (·.name) = ["Lib", "App"] ∧
      (p.execute (Session.new 1) .empty
        (.confirming (Address.repeating 9))).submitted.length = 2 :=
    ⟨_, rfl, rfl, by decide +kernel⟩
  obtain ⟨deployed, hdeployed, hcodes⟩ := submitted_codes hbuild (Session.new 1)
    .empty (.confirming (Address.repeating 9))
  have hall : deployed.length = (unrecorded (Session.new 1) p.units).length := by
    rw [hcodes.length_eq, hlength, ← List.length_map (·.name), hnames]
    rfl
  rw [← hdeployed.eq_of_length hall] at hnames
  exact ⟨p, deployed, hbuild, hnames, hcodes.imp fun u code hcode => hcode.2⟩

end Plan

end Rollout
