import Mathlib.Logic.Relation
import Rollout.Proofs.Plan.Course
import Rollout.Proofs.Session.Reopening

/-!
# Histories of a session

Plans are executed one after the other on the session of one file, which is dropped and reopened in
between. All of them share the handles of that session, so that no unit is deployed a second time,
and what has been deployed once keeps its handle in every later session.
-/

namespace Rollout

open Relation

/-- The submission of a deployment and its answer. -/
structure Submission where
  unit : String
  code : List UInt8
  answer : Answer

/-- The handle that the unit gets from the answer. -/
def Submission.handle? (x : Submission) : Option Handle :=
  (Plan.settle x.unit x.answer).toOption

/-- The session's file was written whenever it had to be. -/
def Execution.IsWritten (e : Execution) : Prop :=
  ∀ path cause, e.outcome ≠ .error (.session (.io path cause))

/-- A unit gets the handle that the answer yields. -/
theorem Submission.handle?_eq_some {x : Submission} {handle : Handle} :
    x.handle? = some handle ↔ x.answer.Yields x.unit handle := by
  rw [handle?, ← Plan.settle_eq_ok]
  cases Plan.settle x.unit x.answer <;> simp [Except.toOption]

namespace Plan

/-- The submissions of codes for units, which are answered in turn. -/
def answered (submitter : Submitter) (codes : List (PlannedUnit × List UInt8)) : List Submission :=
  codes.mapIdx fun i x => ⟨x.1.name, x.2, submitter.answers i⟩

/-- The submissions of an execution. The codes belong to the first of the units that the session did
not hold, in their order. -/
def submissions (p : Plan) (session : Session) (disk : Disk) (submitter : Submitter) :
    List Submission :=
  answered submitter
    ((unrecorded session p.units).zip (p.execute session disk submitter).submitted)

variable {p : Plan} {m : Manifest} {registry : Registry} {units : List PlannedUnit}
  {session : Session} {disk : Disk} {submitter : Submitter} {u : PlannedUnit} {e : Execution}
  {path : String} {chainId : UInt64}

/-- If the session is what would be opened from its file, then so it is after a run, unless the file
could not be written. -/
theorem Runs.reopens (hruns : Runs p units session disk submitter e) (hwritten : e.IsWritten)
    (hopen : Session.openOrNew disk path chainId = .ok session) :
    Session.openOrNew e.disk path chainId = .ok e.session := by
  induction hruns with
  | done => exact hopen
  | skipped _ _ ih => exact ih hwritten hopen
  | unbuilt => exact hopen
  | unsettled => exact hopen
  | unwritten _ _ _ hflush =>
    obtain ⟨path, cause, rfl⟩ := Session.flush_eq_error (congrArg Prod.fst hflush)
    exact absurd rfl (hwritten path cause)
  | deployed hnew _ hsettle hflush _ ih =>
    refine ih (fun path cause herror => hwritten path cause ?_) ?_
    · exact Execution.outcome_after_eq_error.mpr herror
    · exact Session.openOrNew_holding hopen (by rwa [settle_name hsettle]) hflush

/-- Later submissions are answered after the earlier ones. -/
theorem answered_append (codes more : List (PlannedUnit × List UInt8)) :
    answered submitter (codes ++ more) =
      answered submitter codes ++ answered (submitter.skip codes.length) more := by
  simp [answered, Submitter.skip, List.mapIdx_append]

/-- Every submitted code is among the submissions, in order. -/
theorem map_code_submissions (hbuild : Plan.build m registry = .ok p) (session : Session)
    (disk : Disk) (submitter : Submitter) :
    (p.submissions session disk submitter).map (·.code) =
      (p.execute session disk submitter).submitted := by
  have hcodes (codes : List (PlannedUnit × List UInt8)) :
      (answered submitter codes).map (·.code) = codes.map Prod.snd :=
    List.ext_getElem (by simp [answered]) (by simp [answered])
  obtain ⟨deployed, hdeployed, hsubmitted⟩ :=
    (p.runs_executeUnits p.units session disk submitter).exists_deployed
      (isPlanOf_of_build hbuild).nodup_order
  have hlength := hsubmitted.length_eq ▸ hdeployed.length_le
  rw [submissions, hcodes]
  exact List.map_snd_zip hlength

/-- Deployed units get the handles that the answers yield in turn. -/
theorem handles_of_eachAfter {done : List Deployment}
    (heach : EachAfter (p.Deploys session disk submitter) done) :
    (answered submitter (done.map fun d => (d.unit, d.code))).filterMap Submission.handle? =
      done.map (·.handle) := by
  unfold answered
  induction done using List.reverseRecOn with
  | nil => rfl
  | append_singleton done d ih =>
    obtain ⟨hbefore, -, hyields, -⟩ := eachAfter_concat.mp heach
    have hlast := settle_eq_ok.mpr hyields
    simp [List.mapIdx_append, ih hbefore, Submission.handle?, hlast, Except.toOption]

/-- A unit that fails is recorded if it was submitted and its answer yields a handle. -/
theorem Stops.handles_eq {done : List Deployment} {failure : Failure}
    (hstops : p.Stops session disk submitter done u failure e) :
    e.session.handles = session.handles ++ done.map (·.handle) ++
      ((p.creationCode (session.holdingAll (done.map (·.handle))) submitter.sender
        u).toOption.toList.map fun code =>
          Submission.mk u.name code (submitter.answers done.length)).filterMap
        Submission.handle? := by
  have hother (hnone : ∀ path cause, failure ≠ .session (.io path cause)) :
      e.session.handles = session.handles ++ done.map (·.handle) :=
    congrArg Session.handles (hstops.session_of_other hnone)
  cases hstops.fails with
  | unbuilt hcode =>
    rw [hother fun path cause hio => ?_, hcode]
    · simp [Except.toOption]
    · subst hio
      cases creationCode_eq_error hcode
  | unsubmitted hcode hanswer =>
    rw [hother (by simp), hcode]
    simp [Except.toOption, Submission.handle?, settle, hanswer]
  | reverted hcode hanswer hreverted =>
    rw [hother (by simp), hcode]
    simp [Except.toOption, Submission.handle?, settle, hanswer, hreverted]
  | missingAddress hcode hanswer hsuccess hmissing =>
    rw [hother (by simp), hcode]
    simp [Except.toOption, Submission.handle?, settle, hanswer, hsuccess, hmissing]
  | unwritten hcode =>
    obtain ⟨handle, hyields, hsession⟩ := hstops.session_of_io _ _ rfl
    rw [hsession, hcode]
    simp [Except.toOption, Submission.handle?, settle_eq_ok.mpr hyields, Session.holding,
      Session.holdingAll]

/-- Whatever is submitted and confirmed is recorded, and nothing else is. -/
theorem handles_execute (hbuild : Plan.build m registry = .ok p) (session : Session) (disk : Disk)
    (submitter : Submitter) :
    (p.execute session disk submitter).session.handles = session.handles ++
      (p.submissions session disk submitter).filterMap Submission.handle? := by
  have hnodup := (isPlanOf_of_build hbuild).nodup_order
  obtain ⟨done, heach, hend⟩ :=
    (p.runs_executeUnits p.units session disk submitter).exists_deployments hnodup
  rw [submissions, execute]
  have hzip : (done.map (·.unit)).zip (done.map (·.code)) = done.map fun d => (d.unit, d.code) :=
    List.zip_map'
  have hdone := handles_of_eachAfter heach
  rcases hend with ⟨hunits, hsubmitted, -, hsession⟩ | ⟨u, after, failure, hunits, hstops⟩
  · rw [hunits, hsubmitted, hzip, hdone, hsession, Session.holdingAll]
  · rw [hunits, hstops.submitted_eq, hstops.handles_eq, List.zip_append (by simp), hzip,
      answered_append, List.filterMap_append, hdone, List.append_assoc]
    cases (p.creationCode (session.holdingAll (done.map (·.handle))) submitter.sender u).toOption
    · simp [answered]
    · simp [answered, Submitter.skip]

/-- Executing a plan whose units are all recorded does nothing. -/
theorem execute_of_recorded (hrecorded : ∀ u ∈ p.units, session.contains u.name) (disk : Disk)
    (submitter : Submitter) : p.execute session disk submitter = ⟨[], session, disk, .ok []⟩ := by
  have hruns : Runs p (p.units ++ []) session disk submitter ⟨[], session, disk, .ok []⟩ :=
    Runs.of_recorded hrecorded Runs.done
  rw [List.append_nil] at hruns
  exact hruns.eq_executeUnits.symm

end Plan

/-- What a sequence of executions has come to: the session of the moment, the files, and all
submissions so far. -/
structure Ledger where
  session : Session
  disk : Disk
  log : List Submission

namespace Ledger

/-- What may happen to the session of a file: a plan is executed on it and its file is written, it
is dropped and opened again, or something happens to other files. -/
inductive Step (path : String) (chainId : UInt64) (now : Ledger) : Ledger → Prop
  | executed {m : Manifest} {registry : Registry} {p : Plan} (submitter : Submitter)
      (hbuild : Plan.build m registry = .ok p)
      (hwritten : (p.execute now.session now.disk submitter).IsWritten) :
    Step path chainId now ⟨(p.execute now.session now.disk submitter).session,
      (p.execute now.session now.disk submitter).disk,
      now.log ++ p.submissions now.session now.disk submitter⟩
  | reopened {session : Session} (hopen : Session.openOrNew now.disk path chainId = .ok session) :
    Step path chainId now { now with session }
  | elsewhere {disk : Disk} (hread : now.disk.read path = disk.read path) :
    Step path chainId now { now with disk }

/-- The session is what would be opened from its file, and has the handles of all submissions that
were confirmed, behind those that it started with. -/
structure Accounted (path : String) (chainId : UInt64) (start : Session) (now : Ledger) :
    Prop where
  opened : Session.openOrNew now.disk path chainId = .ok now.session
  handles_eq : now.session.handles =
    start.handles ++ now.log.filterMap Submission.handle?

variable {path : String} {chainId : UInt64} {start : Session} {now next later : Ledger}

/-- Whatever happens, everything stays accounted for, and the log only grows. -/
theorem Step.accounted (hstep : Step path chainId now next)
    (hnow : now.Accounted path chainId start) :
    next.Accounted path chainId start ∧ now.log <+: next.log := by
  obtain ⟨hopened, hhandles⟩ := hnow
  cases hstep with
  | executed submitter hbuild hwritten =>
    refine ⟨⟨(Plan.runs_executeUnits _ _ _ _ _).reopens hwritten hopened, ?_⟩,
      List.prefix_append _ _⟩
    rw [Plan.handles_execute hbuild, hhandles, List.filterMap_append, List.append_assoc]
  | reopened hopen =>
    obtain rfl := Except.ok.inj (hopened.symm.trans hopen)
    exact ⟨⟨hopen, hhandles⟩, List.prefix_rfl⟩
  | elsewhere hread =>
    exact ⟨⟨(Session.openOrNew_congr hread).symm.trans hopened, hhandles⟩, List.prefix_rfl⟩

/-- Along a whole history, everything stays accounted for, and the log only grows. -/
theorem accounted_of_steps (hsteps : ReflTransGen (Step path chainId) now later)
    (hnow : now.Accounted path chainId start) :
    later.Accounted path chainId start ∧ now.log <+: later.log := by
  induction hsteps with
  | refl => exact ⟨hnow, List.prefix_rfl⟩
  | tail _ hstep ih =>
    obtain ⟨hlater, hlog⟩ := hstep.accounted ih.1
    exact ⟨hlater, ih.2.trans hlog⟩

/-- Submissions of one unit are not confirmed twice. -/
theorem Accounted.pairwise_log (hnow : now.Accounted path chainId start) :
    now.log.Pairwise fun x y => ∀ handle later, x.answer.Yields x.unit handle →
      y.answer.Yields y.unit later → x.unit ≠ y.unit := by
  obtain ⟨-, -, hnodup⟩ := Session.openOrNew_eq_ok hnow.opened
  rw [hnow.handles_eq, List.map_append, List.nodup_append] at hnodup
  have hpairwise : (now.log.filterMap Submission.handle?).Pairwise fun a b => a.name ≠ b.name :=
    List.pairwise_map.mp hnodup.2.1
  refine (List.pairwise_filterMap.mp hpairwise).imp fun hxy handle later hx hy => ?_
  have hne := hxy handle (Submission.handle?_eq_some.mpr hx) later
    (Submission.handle?_eq_some.mpr hy)
  rwa [Plan.settle_name (Plan.settle_eq_ok.mpr hx), Plan.settle_name (Plan.settle_eq_ok.mpr hy)]
    at hne

/-- A confirmed submission has its handle in the session. -/
theorem Accounted.get?_eq (hnow : now.Accounted path chainId start) {x : Submission}
    (hx : x ∈ now.log) {handle : Handle} (hyields : x.answer.Yields x.unit handle) :
    now.session.get? x.unit = some handle := by
  obtain ⟨-, -, hnodup⟩ := Session.openOrNew_eq_ok hnow.opened
  have hmem : handle ∈ now.session.handles := by
    rw [hnow.handles_eq, List.mem_append, List.mem_filterMap]
    exact Or.inr ⟨x, hx, Submission.handle?_eq_some.mpr hyields⟩
  rw [← Plan.settle_name (Plan.settle_eq_ok.mpr hyields)]
  exact Session.get?_of_mem hnodup hmem

/-- However plans are executed on the session of a file, which may be reopened at any time: no unit
is deployed twice with success, whatever manifests it belongs to. Once it has been, its handle is in
the session and stays there in every later one. Reopening always gives the session of the moment,
and executing a plan whose units are all recorded does nothing. -/
theorem deployed_once {disk : Disk} (hopen : Session.openOrNew disk path chainId = .ok start)
    (hsteps : ReflTransGen (Step path chainId) ⟨start, disk, []⟩ now) :
    (now.log.Pairwise fun x y => ∀ handle later, x.answer.Yields x.unit handle →
      y.answer.Yields y.unit later → x.unit ≠ y.unit) ∧
    (∀ x ∈ now.log, ∀ handle, x.answer.Yields x.unit handle →
      ∀ later, ReflTransGen (Step path chainId) now later →
        later.session.get? x.unit = some handle) ∧
    Session.openOrNew now.disk path chainId = .ok now.session ∧
    ∀ (p : Plan) (submitter : Submitter), (∀ u ∈ p.units, now.session.contains u.name) →
      p.execute now.session now.disk submitter = ⟨[], now.session, now.disk, .ok []⟩ := by
  have hstart : Accounted path chainId start ⟨start, disk, []⟩ := ⟨hopen, (List.append_nil _).symm⟩
  have hnow := (accounted_of_steps hsteps hstart).1
  refine ⟨hnow.pairwise_log, fun x hx handle hyields later hlater => ?_, hnow.opened,
    fun p submitter hrecorded => Plan.execute_of_recorded hrecorded _ _⟩
  obtain ⟨haccounted, hlog⟩ := accounted_of_steps hlater hnow
  exact haccounted.get?_eq (hlog.subset hx) hyields

/-- A plan is stopped by a revert, its session is reopened, and the plan is executed to its end.
Each unit is confirmed once, and executing the plan once more does nothing. -/
theorem deployed_once_of_stacked :
    ∃ p now, Plan.build Plan.stacked Plan.stackedRegistry = .ok p ∧
      ReflTransGen (Step "s.json" 1) ⟨(Session.new 1).persistTo "s.json", .empty, []⟩ now ∧
      now.log.map (·.unit) = ["Base", "Lib", "App", "App"] ∧
      (now.log.Pairwise fun x y => ∀ handle later, x.answer.Yields x.unit handle →
        y.answer.Yields y.unit later → x.unit ≠ y.unit) ∧
      now.session.handles.map (·.name) = ["Base", "Lib", "App"] ∧
      p.execute now.session now.disk (.confirming (Address.repeating 9)) =
        ⟨[], now.session, now.disk, .ok []⟩ := by
  let start := (Session.new 1).persistTo "s.json"
  let stopping := Submitter.revertingFrom 2 (Address.repeating 9)
  let confirming := Submitter.confirming (Address.repeating 9)
  obtain ⟨p, hbuild, hunits, hfirst, hsecond, hlog, hhandles⟩ :
      ∃ p, Plan.build Plan.stacked Plan.stackedRegistry = .ok p ∧
        p.units.map (·.name) = ["Base", "Lib", "App"] ∧
        let first := p.execute start .empty stopping
        let second := p.execute first.session first.disk confirming
        first.outcome = .error (.deployment (.reverted "App" (FixedBytes.replicate 32 2))) ∧
        (second.outcome.map fun handles => handles.map (·.name)) = .ok ["App"] ∧
        (p.submissions start .empty stopping ++
          p.submissions first.session first.disk confirming).map (·.unit) =
            ["Base", "Lib", "App", "App"] ∧
        second.session.handles.map (·.name) = ["Base", "Lib", "App"] :=
    ⟨_, rfl, rfl, rfl, rfl, by decide +kernel, by decide +kernel⟩
  have hopen : Session.openOrNew .empty "s.json" 1 = .ok start := rfl
  have hstopped : ReflTransGen (Step "s.json" 1) ⟨start, .empty, []⟩ _ :=
    ReflTransGen.single (Step.executed stopping hbuild (by simp [Execution.IsWritten, hfirst]))
  have hreopened := hstopped.tail (Step.reopened (deployed_once hopen hstopped).2.2.1)
  have hdone := hreopened.tail (Step.executed confirming hbuild fun path cause herror => by
    rw [herror] at hsecond
    cases hsecond)
  obtain ⟨hpairwise, -, -, hnothing⟩ := deployed_once hopen hdone
  refine ⟨p, _, hbuild, hdone, hlog, hpairwise, hhandles, hnothing p _ fun u hu => ?_⟩
  have hname := List.mem_map_of_mem (f := PlannedUnit.name) hu
  rw [hunits, ← hhandles] at hname
  obtain ⟨handle, hhandle, hname⟩ := List.mem_map.mp hname
  exact List.any_eq_true.mpr ⟨handle, hhandle, beq_iff_eq.mpr hname⟩

end Ledger

end Rollout
