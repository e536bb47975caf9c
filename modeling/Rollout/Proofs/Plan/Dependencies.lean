import Rollout.Proofs.Plan.Build
import Rollout.Proofs.Plan.CreationCode
import Rollout.Proofs.Plan.Runs

/-!
# Dependencies at hand

When an execution comes to a unit, the session holds the units before it: they were there already
or have been deployed by then. Everything that the unit requires is among them, so no address is
ever missing, and a unit that is recorded is always a new one.
-/

namespace Rollout

open Relation

namespace Plan

/-- An execution comes to the unit with the session `now`: the units before it were executed
without a failure and left this session. -/
def Reaches (p : Plan) (session : Session) (disk : Disk) (submitter : Submitter) (u : PlannedUnit)
    (now : Session) : Prop :=
  ∃ before after handles, p.units = before ++ u :: after ∧
    (p.executeUnits before session disk submitter).outcome = .ok handles ∧
    (p.executeUnits before session disk submitter).session = now

variable {p : Plan} {m : Manifest} {registry : Registry} {session now : Session} {disk : Disk}
  {submitter : Submitter} {u : PlannedUnit}

/-- An execution that comes to a unit goes on from there with this unit and those after it. -/
theorem Reaches.exists_execute_eq (hreaches : p.Reaches session disk submitter u now) :
    ∃ before after, p.units = before ++ u :: after ∧
      let first := p.executeUnits before session disk submitter
      p.execute session disk submitter = first.followedBy
        (p.executeUnits (u :: after) now first.disk (submitter.skip first.submitted.length)) := by
  obtain ⟨before, after, handles, hsplit, hok, rfl⟩ := hreaches
  refine ⟨before, after, hsplit, ?_⟩
  have hruns := (p.runs_executeUnits before session disk submitter).append hok
    (p.runs_executeUnits (u :: after) _ _ _)
  rw [execute, hsplit]
  exact hruns.eq_executeUnits.symm

/-- When an execution comes to a unit, the session holds everything that the unit requires. -/
theorem Reaches.contains (hreaches : p.Reaches session disk submitter u now)
    (hp : p.IsPlanOf m registry) {name : String} (hrequires : TransGen m.Requires u.name name) :
    now.contains name := by
  obtain ⟨before, after, handles, hsplit, hok, rfl⟩ := hreaches
  obtain ⟨v, hv, rfl⟩ := hp.exists_mem_before hsplit hrequires
  exact (p.runs_executeUnits before session disk submitter).contains_of_ok hok hv

/-- The run of one unit fails when its code cannot be built, when its deployment is not answered
with an address, or when the session's file cannot be written. -/
theorem Runs.eq_error {last : Execution} (hruns : Runs p [u] session disk submitter last)
    {failure : Failure} (herror : last.outcome = .error failure) :
    CodeFailure u session failure ∨ (∃ cause, failure = .deployment cause) ∨
      ∃ path cause, failure = .session (.io path cause) := by
  cases hruns with
  | skipped _ hrest =>
    cases hrest
    cases herror
  | unbuilt _ hcode =>
    obtain rfl := Except.error.inj herror
    exact Or.inl (creationCode_eq_error hcode)
  | unsettled =>
    obtain rfl := Except.error.inj herror
    exact Or.inr (Or.inl ⟨_, rfl⟩)
  | unwritten _ _ _ hflush =>
    obtain rfl := Except.error.inj herror
    obtain ⟨path, cause, rfl⟩ := Session.flush_eq_error (congrArg Prod.fst hflush)
    exact Or.inr (Or.inr ⟨path, cause, rfl⟩)
  | deployed _ _ _ _ hrest =>
    cases hrest
    cases herror

/-- An execution that fails comes to some unit and fails there. -/
theorem exists_reaches_of_error {failure : Failure}
    (herror : (p.execute session disk submitter).outcome = .error failure) :
    ∃ u ∈ p.units, ∃ now, p.Reaches session disk submitter u now ∧
      (CodeFailure u now failure ∨ (∃ cause, failure = .deployment cause) ∨
        ∃ path cause, failure = .session (.io path cause)) := by
  obtain ⟨before, u, after, first, last, hsplit, hfirst, ⟨handles, hok⟩, hlast, hfailed, -⟩ :=
    (p.runs_executeUnits p.units session disk submitter).exists_failing_unit herror
  obtain rfl := hfirst.eq_executeUnits
  have hu : u ∈ p.units := by
    rw [hsplit]
    exact List.mem_append_right _ List.mem_cons_self
  exact ⟨u, hu, _, ⟨before, after, handles, hsplit, hok, rfl⟩, hlast.eq_error hfailed⟩

/-- Whenever a built plan is executed, the session holds everything that a unit requires by the
time the execution comes to the unit. So it never fails for want of an address, nor because a unit
has been recorded before. -/
theorem requirements_at_hand (hbuild : Plan.build m registry = .ok p) (session : Session)
    (disk : Disk) (submitter : Submitter) :
    (∀ u now, p.Reaches session disk submitter u now →
      ∀ name, TransGen m.Requires u.name name → now.contains name) ∧
    (∀ unit dependency, (p.execute session disk submitter).outcome ≠
      .error (.link (.unresolved unit dependency))) ∧
    ∀ unit, (p.execute session disk submitter).outcome ≠
      .error (.session (.alreadyRecorded unit)) := by
  have hp := isPlanOf_of_build hbuild
  refine ⟨fun u now hreaches name => hreaches.contains hp, fun unit dependency herror => ?_,
    fun unit herror => ?_⟩
  · obtain ⟨u, hu, now, hreaches, hcause⟩ := exists_reaches_of_error herror
    rcases hcause with hcode | ⟨cause, hcause⟩ | ⟨path, cause, hcause⟩
    · cases hcode with
      | unresolved hdependency hmissing =>
        exact hmissing (hreaches.contains hp (TransGen.single (hp.requires hu hdependency)))
    · cases hcause
    · cases hcause
  · obtain ⟨u, hu, now, hreaches, hcause⟩ := exists_reaches_of_error herror
    rcases hcause with hcode | ⟨cause, hcause⟩ | ⟨path, cause, hcause⟩
    · cases hcode
    · cases hcause
    · cases hcause

/-- A contract that takes the address of a library, which has another library linked. -/
def chained : Manifest :=
  ⟨[{ name := "App", args := [.unit "Lib"] }, { name := "Lib", links := ["Base"] },
    { name := "Base" }]⟩

/-- A short code without placeholders for every name. -/
def plainRegistry : Registry := fun name =>
  .ok ⟨name, none, .empty, ⟨['6', '0'], []⟩⟩

/-- When the execution of the chained units comes to the contract, both libraries are at hand. -/
theorem requirements_of_chained :
    ∃ p u now, Plan.build chained plainRegistry = .ok p ∧ u.name = "App" ∧
      p.Reaches (Session.new 1) .empty (.confirming (Address.repeating 9)) u now ∧
      now.contains "Lib" ∧ now.contains "Base" := by
  obtain ⟨p, hbuild, u, now, hname, hreaches⟩ : ∃ p, Plan.build chained plainRegistry = .ok p ∧
      ∃ u now, u.name = "App" ∧
        p.Reaches (Session.new 1) .empty (.confirming (Address.repeating 9)) u now :=
    ⟨_, rfl, _, _, rfl, [_, _], [], _, rfl, rfl, rfl⟩
  have hrequires := (requirements_at_hand hbuild _ _ _).1 u now hreaches
  have happ : chained.Requires "App" "Lib" := ⟨_, List.mem_cons_self, rfl, by decide⟩
  have hlib : chained.Requires "Lib" "Base" :=
    ⟨_, List.mem_cons_of_mem _ List.mem_cons_self, rfl, by decide⟩
  rw [hname] at hrequires
  exact ⟨p, u, now, hbuild, hname, hreaches, hrequires "Lib" (TransGen.single happ),
    hrequires "Base" ((TransGen.single happ).tail hlib)⟩

end Plan

end Rollout
