import Rollout.Plan.Basic
import Rollout.Proofs.Session.Handles

/-!
# Runs of a plan

A run tells what happens to each unit in turn: it is skipped, or its code cannot be built, or its
deployment is not answered with an address, or its handle cannot be written, or it is deployed and
the run goes on. Executions are exactly the runs, so what holds along runs holds of executions.
-/

namespace Rollout

/-- The submitter after a number of submissions. -/
def Submitter.skip (s : Submitter) (count : ℕ) : Submitter :=
  { s with answers := fun n => s.answers (n + count) }

/-- Every submission succeeds, the first with the lowest address. -/
def Submitter.confirming (sender : Address) : Submitter :=
  ⟨sender, fun n => .ok ⟨FixedBytes.replicate 32 (UInt8.ofNat n), true,
    some (Address.repeating (UInt8.ofNat n))⟩⟩

namespace Execution

/-- The execution that goes on with another one, if it has not failed. -/
def followedBy (e next : Execution) : Execution where
  submitted := e.submitted ++ next.submitted
  session := next.session
  disk := next.disk
  outcome := do
    let handles ← e.outcome
    let more ← next.outcome
    return handles ++ more

/-- Going on from nothing. -/
theorem followedBy_nothing (session : Session) (disk : Disk) (next : Execution) :
    Execution.followedBy ⟨[], session, disk, .ok []⟩ next = next := by
  have houtcome : (next.outcome >>= fun more => pure ([] ++ more)) = next.outcome := by
    cases next.outcome <;> rfl
  simp only [followedBy, List.nil_append]
  exact congrArg (Execution.mk next.submitted next.session next.disk) houtcome

/-- Going on after a unit that was deployed first. -/
theorem after_followedBy (code : List UInt8) (handle : Handle) (e next : Execution) :
    (e.after code handle).followedBy next = (e.followedBy next).after code handle := by
  have houtcome : ((e.after code handle).followedBy next).outcome =
      ((e.followedBy next).after code handle).outcome := by
    simp only [followedBy, after]
    cases e.outcome <;> cases next.outcome <;> rfl
  exact congrArg (Execution.mk _ next.session next.disk) houtcome

/-- The execution with one more deployed unit fails when the rest of it does. -/
theorem outcome_after_eq_error {e : Execution} {code : List UInt8} {handle : Handle}
    {failure : Failure} :
    (e.after code handle).outcome = .error failure ↔ e.outcome = .error failure :=
  map_eq_error

/-- The execution with one more deployed unit succeeds when the rest of it does. -/
theorem outcome_after_eq_ok {e : Execution} {code : List UInt8} {handle : Handle}
    {handles : List Handle} :
    (e.after code handle).outcome = .ok handles ↔
      ∃ later, e.outcome = .ok later ∧ handle :: later = handles :=
  map_eq_ok

end Execution

namespace Plan

/-- A deployment that is settled belongs to the unit that it was made for. -/
theorem settle_name {unit : String} {answer : Answer} {handle : Handle}
    (hsettle : settle unit answer = .ok handle) : handle.name = unit := by
  unfold settle at hsettle
  split at hsettle
  · cases hsettle
  · split at hsettle
    · split at hsettle
      · cases hsettle
        rfl
      · cases hsettle
    · cases hsettle

/-- The run of a plan over some of its units, from a session, a disk and a submitter to what it
leaves behind. -/
inductive Runs (p : Plan) : List PlannedUnit → Session → Disk → Submitter → Execution → Prop
  /-- Nothing is left to do. -/
  | done {session : Session} {disk : Disk} {submitter : Submitter} :
    Runs p [] session disk submitter ⟨[], session, disk, .ok []⟩
  /-- The session holds the unit already. -/
  | skipped {u : PlannedUnit} {units : List PlannedUnit} {session : Session} {disk : Disk}
      {submitter : Submitter} {e : Execution} (hcontains : session.contains u.name)
      (hrest : Runs p units session disk submitter e) :
    Runs p (u :: units) session disk submitter e
  /-- The code of the unit cannot be built. -/
  | unbuilt {u : PlannedUnit} {units : List PlannedUnit} {session : Session} {disk : Disk}
      {submitter : Submitter} {failure : Failure} (hnew : ¬ session.contains u.name)
      (hcode : p.creationCode session submitter.sender u = .error failure) :
    Runs p (u :: units) session disk submitter ⟨[], session, disk, .error failure⟩
  /-- The deployment is not answered with an address. -/
  | unsettled {u : PlannedUnit} {units : List PlannedUnit} {session : Session} {disk : Disk}
      {submitter : Submitter} {code : List UInt8} {cause : DeploymentError}
      (hnew : ¬ session.contains u.name)
      (hcode : p.creationCode session submitter.sender u = .ok code)
      (hsettle : settle u.name submitter.next = .error cause) :
    Runs p (u :: units) session disk submitter ⟨[code], session, disk, .error (.deployment cause)⟩
  /-- The handle is recorded, but the session's file cannot be written. -/
  | unwritten {u : PlannedUnit} {units : List PlannedUnit} {session : Session}
      {disk disk' : Disk} {submitter : Submitter} {code : List UInt8} {handle : Handle}
      {cause : SessionError} (hnew : ¬ session.contains u.name)
      (hcode : p.creationCode session submitter.sender u = .ok code)
      (hsettle : settle u.name submitter.next = .ok handle)
      (hflush : (session.holding handle).flush disk = (.error cause, disk')) :
    Runs p (u :: units) session disk submitter
      ⟨[code], session.holding handle, disk', .error (.session cause)⟩
  /-- The unit is deployed, and the run goes on with its handle. -/
  | deployed {u : PlannedUnit} {units : List PlannedUnit} {session : Session}
      {disk disk' : Disk} {submitter : Submitter} {code : List UInt8} {handle : Handle}
      {e : Execution} (hnew : ¬ session.contains u.name)
      (hcode : p.creationCode session submitter.sender u = .ok code)
      (hsettle : settle u.name submitter.next = .ok handle)
      (hflush : (session.holding handle).flush disk = (.ok (), disk'))
      (hrest : Runs p units (session.holding handle) disk' submitter.rest e) :
    Runs p (u :: units) session disk submitter (e.after code handle)

variable {p : Plan} {units : List PlannedUnit} {session : Session} {disk : Disk}
  {submitter : Submitter} {e : Execution}

/-- Executing the units is a run over them. -/
theorem runs_executeUnits (p : Plan) (units : List PlannedUnit) (session : Session) (disk : Disk)
    (submitter : Submitter) :
    Runs p units session disk submitter (p.executeUnits units session disk submitter) := by
  induction units generalizing session disk submitter with
  | nil => exact Runs.done
  | cons u units ih =>
    rw [executeUnits]
    split
    · rename_i hcontains
      exact Runs.skipped hcontains (ih session disk submitter)
    · rename_i hnew
      split
      · rename_i failure hcode
        exact Runs.unbuilt hnew hcode
      · rename_i code hcode
        split
        · rename_i cause hsettle
          exact Runs.unsettled hnew hcode hsettle
        · rename_i handle hsettle
          have hname := settle_name hsettle
          rw [Session.record_of_new (by rwa [hname])]
          cases hflush : (session.holding handle).flush disk with
          | mk outcome disk' =>
            cases outcome with
            | error cause => exact Runs.unwritten hnew hcode hsettle hflush
            | ok => exact Runs.deployed hnew hcode hsettle hflush (ih _ _ _)

/-- A run over the units is their execution. -/
theorem Runs.eq_executeUnits (hruns : Runs p units session disk submitter e) :
    e = p.executeUnits units session disk submitter := by
  induction hruns with
  | done => rfl
  | skipped hcontains _ ih => rw [executeUnits, if_pos hcontains, ih]
  | unbuilt hnew hcode => rw [executeUnits, if_neg hnew, hcode]
  | unsettled hnew hcode hsettle => simp only [executeUnits, if_neg hnew, hcode, hsettle]
  | unwritten hnew hcode hsettle hflush =>
    have hname := settle_name hsettle
    simp only [executeUnits, if_neg hnew, hcode, hsettle,
      Session.record_of_new (by rwa [hname]), hflush, Except.map]
  | deployed hnew hcode hsettle hflush _ ih =>
    have hname := settle_name hsettle
    simp only [executeUnits, if_neg hnew, hcode, hsettle,
      Session.record_of_new (by rwa [hname]), hflush, Except.map, ih]

/-- A run only appends handles. -/
theorem Runs.prefix_handles (hruns : Runs p units session disk submitter e) :
    session.handles <+: e.session.handles := by
  induction hruns with
  | done => exact List.prefix_rfl
  | skipped _ _ ih => exact ih
  | unbuilt => exact List.prefix_rfl
  | unsettled => exact List.prefix_rfl
  | unwritten => exact Session.prefix_holding _ _
  | deployed _ _ _ _ _ ih => exact (Session.prefix_holding _ _).trans ih

/-- After a run that has not failed, the session holds all of its units. -/
theorem Runs.contains_of_ok (hruns : Runs p units session disk submitter e) {handles : List Handle}
    (hok : e.outcome = .ok handles) {u : PlannedUnit} (hu : u ∈ units) :
    e.session.contains u.name := by
  induction hruns generalizing handles with
  | done => cases hu
  | skipped hcontains hrest ih =>
    rcases List.mem_cons.mp hu with rfl | hu
    · exact Session.contains_mono hrest.prefix_handles hcontains
    · exact ih hok hu
  | unbuilt => cases hok
  | unsettled => cases hok
  | unwritten => cases hok
  | deployed _ _ hsettle _ hrest ih =>
    obtain ⟨later, hlater, -⟩ := Execution.outcome_after_eq_ok.mp hok
    rcases List.mem_cons.mp hu with rfl | hu
    · exact Session.contains_mono hrest.prefix_handles
        (Session.contains_holding.mpr (Or.inr (settle_name hsettle)))
    · exact ih hlater hu

/-- Units that the session holds are passed over. -/
theorem Runs.of_recorded {before : List PlannedUnit}
    (hrecorded : ∀ u ∈ before, session.contains u.name)
    (hruns : Runs p units session disk submitter e) :
    Runs p (before ++ units) session disk submitter e := by
  induction before with
  | nil => exact hruns
  | cons u before ih =>
    rw [List.forall_mem_cons] at hrecorded
    exact Runs.skipped hrecorded.1 (ih hrecorded.2)

/-- A run that has not failed goes on with the next units where it ended. -/
theorem Runs.append {after : List PlannedUnit} {next : Execution}
    (hruns : Runs p units session disk submitter e) {handles : List Handle}
    (hok : e.outcome = .ok handles)
    (hnext : Runs p after e.session e.disk (submitter.skip e.submitted.length) next) :
    Runs p (units ++ after) session disk submitter (e.followedBy next) := by
  induction hruns generalizing handles with
  | done =>
    rw [Execution.followedBy_nothing]
    exact hnext
  | skipped hcontains hrest ih => exact Runs.skipped hcontains (ih hok hnext)
  | unbuilt => cases hok
  | unsettled => cases hok
  | unwritten => cases hok
  | deployed hnew hcode hsettle hflush hrest ih =>
    obtain ⟨later, hlater, -⟩ := Execution.outcome_after_eq_ok.mp hok
    rw [Execution.after_followedBy]
    exact Runs.deployed hnew hcode hsettle hflush (ih hlater hnext)

/-- A run that fails is one that does not, over the units before some unit, and then the run of that
unit, which fails. -/
theorem Runs.exists_failing_unit (hruns : Runs p units session disk submitter e)
    {failure : Failure} (herror : e.outcome = .error failure) :
    ∃ before u after first last, units = before ++ u :: after ∧
      Runs p before session disk submitter first ∧ (∃ handles, first.outcome = .ok handles) ∧
      Runs p [u] first.session first.disk (submitter.skip first.submitted.length) last ∧
      last.outcome = .error failure ∧ e = first.followedBy last := by
  induction hruns with
  | done => cases herror
  | skipped hcontains _ ih =>
    obtain ⟨before, u, after, first, last, rfl, hfirst, hok, hlast⟩ := ih herror
    exact ⟨_ :: before, u, after, first, last, rfl, Runs.skipped hcontains hfirst, hok, hlast⟩
  | unbuilt hnew hcode =>
    exact ⟨[], _, _, _, _, rfl, Runs.done, ⟨[], rfl⟩, Runs.unbuilt hnew hcode, herror,
      (Execution.followedBy_nothing _ _ _).symm⟩
  | unsettled hnew hcode hsettle =>
    exact ⟨[], _, _, _, _, rfl, Runs.done, ⟨[], rfl⟩, Runs.unsettled hnew hcode hsettle, herror,
      (Execution.followedBy_nothing _ _ _).symm⟩
  | unwritten hnew hcode hsettle hflush =>
    exact ⟨[], _, _, _, _, rfl, Runs.done, ⟨[], rfl⟩, Runs.unwritten hnew hcode hsettle hflush,
      herror, (Execution.followedBy_nothing _ _ _).symm⟩
  | deployed hnew hcode hsettle hflush _ ih =>
    obtain ⟨before, u, after, first, last, rfl, hfirst, ⟨handles, hok⟩, hlast, hfailed, rfl⟩ :=
      ih (Execution.outcome_after_eq_error.mp herror)
    exact ⟨_ :: before, u, after, first.after _ _, last, rfl,
      Runs.deployed hnew hcode hsettle hflush hfirst,
      ⟨_, Execution.outcome_after_eq_ok.mpr ⟨handles, hok, rfl⟩⟩, hlast, hfailed,
      (Execution.after_followedBy _ _ _ _).symm⟩

end Plan

end Rollout
