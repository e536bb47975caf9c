import Rollout.Proofs.Plan.FinalCode
import Rollout.Proofs.Sequence

/-!
# The course of an execution

An execution deploys the units that the session does not hold, in their order, until all of them
are deployed or one of them fails. A deployed unit leaves its handle behind. A unit that fails
leaves nothing, unless its deployment succeeded and only the session's file could not be written.
-/

namespace Rollout

/-- The answer is a success with an address, from which the unit gets this handle. -/
def Answer.Yields (answer : Answer) (unit : String) (handle : Handle) : Prop :=
  ∃ receipt address, answer = .ok receipt ∧ receipt.success = true ∧
    receipt.contractAddress = some address ∧ handle = ⟨unit, address, some receipt.txHash⟩

/-- The first submissions succeed, and the others are reverted. -/
def Submitter.revertingFrom (count : ℕ) (sender : Address) : Submitter :=
  ⟨sender, fun n =>
    let hash := FixedBytes.replicate 32 (UInt8.ofNat n)
    if n < count then .ok ⟨hash, true, some (Address.repeating (UInt8.ofNat n))⟩
    else .ok ⟨hash, false, none⟩⟩

/-- The deployment of one unit. -/
structure Deployment where
  unit : PlannedUnit
  /-- The code that was submitted for the unit. -/
  code : List UInt8
  /-- The handle that the unit got. -/
  handle : Handle

namespace Plan

/-- A unit is settled by an answer that yields its handle. -/
theorem settle_eq_ok {unit : String} {answer : Answer} {handle : Handle} :
    settle unit answer = .ok handle ↔ answer.Yields unit handle := by
  unfold settle Answer.Yields
  cases answer with
  | error causes => simp
  | ok receipt =>
    cases hsuccess : receipt.success with
    | false => simp [hsuccess]
    | true =>
      cases haddress : receipt.contractAddress with
      | none => simp [hsuccess, haddress]
      | some address => simp [hsuccess, haddress, eq_comm (a := handle)]

/-- After the deployments before it, the unit is deployed: its code is built from the session of
the moment, the answer in turn yields its handle, and the session with the handle is written. -/
def Deploys (p : Plan) (session : Session) (disk : Disk) (submitter : Submitter)
    (before : List Deployment) (d : Deployment) : Prop :=
  let handles := before.map (·.handle)
  let now := session.holdingAll handles
  p.creationCode now submitter.sender d.unit = .ok d.code ∧
  (submitter.answers before.length).Yields d.unit.name d.handle ∧
  ((now.holding d.handle).flush (session.diskAfter disk handles)).1 = .ok ()

/-- The ways in which a unit fails at its turn, with the session and the disk of the moment and the
answer that its deployment gets if it is submitted. -/
inductive Fails (p : Plan) (now : Session) (disk : Disk) (sender : Address) (answer : Answer)
    (u : PlannedUnit) : Failure → Prop
  /-- A library cannot be linked, or the arguments cannot be encoded. -/
  | unbuilt {failure : Failure} (hcode : p.creationCode now sender u = .error failure) :
    Fails p now disk sender answer u failure
  /-- The deployment cannot be submitted. -/
  | unsubmitted {code : List UInt8} {causes : List String}
      (hcode : p.creationCode now sender u = .ok code) (hanswer : answer = .error causes) :
    Fails p now disk sender answer u (.deployment (.submission u.name causes))
  /-- The deployment is reverted. -/
  | reverted {code : List UInt8} {receipt : Receipt}
      (hcode : p.creationCode now sender u = .ok code) (hanswer : answer = .ok receipt)
      (hreverted : receipt.success = false) :
    Fails p now disk sender answer u (.deployment (.reverted u.name receipt.txHash))
  /-- The receipt carries no address. -/
  | missingAddress {code : List UInt8} {receipt : Receipt}
      (hcode : p.creationCode now sender u = .ok code) (hanswer : answer = .ok receipt)
      (hsuccess : receipt.success = true) (hmissing : receipt.contractAddress = none) :
    Fails p now disk sender answer u (.deployment (.missingAddress u.name receipt.txHash))
  /-- The handle is recorded, but the session's file cannot be written. -/
  | unwritten {code : List UInt8} {handle : Handle} {path : String} {cause : IoError}
      (hcode : p.creationCode now sender u = .ok code) (hyields : answer.Yields u.name handle)
      (hflush : ((now.holding handle).flush disk).1 = .error (.io path cause)) :
    Fails p now disk sender answer u (.session (.io path cause))

/-- After the given deployments, the unit fails and the execution ends. -/
structure Stops (p : Plan) (session : Session) (disk : Disk) (submitter : Submitter)
    (done : List Deployment) (u : PlannedUnit) (failure : Failure) (e : Execution) : Prop where
  fails : p.Fails (session.holdingAll (done.map (·.handle)))
    (session.diskAfter disk (done.map (·.handle))) submitter.sender
    (submitter.answers done.length) u failure
  outcome_eq : e.outcome = .error failure
  /-- The unit is submitted if its code could be built, and nothing is submitted after it. -/
  submitted_eq : e.submitted = done.map (·.code) ++
    (p.creationCode (session.holdingAll (done.map (·.handle))) submitter.sender
      u).toOption.toList
  /-- When only the file could not be written, the unit keeps its handle. -/
  session_of_io : ∀ path cause, failure = .session (.io path cause) →
    ∃ handle, (submitter.answers done.length).Yields u.name handle ∧
      e.session = (session.holdingAll (done.map (·.handle))).holding handle
  /-- Otherwise the unit leaves no handle. -/
  session_of_other : (∀ path cause, failure ≠ .session (.io path cause)) →
    e.session = session.holdingAll (done.map (·.handle))

variable {p : Plan} {m : Manifest} {registry : Registry} {units : List PlannedUnit}
  {session : Session} {disk disk' : Disk} {submitter : Submitter} {u : PlannedUnit}
  {e : Execution}

/-- A deployment that is not settled failed to be submitted, was reverted or has no address. -/
theorem fails_of_settle_eq_error {answer : Answer} {code : List UInt8} {cause : DeploymentError}
    (hcode : p.creationCode session submitter.sender u = .ok code)
    (hsettle : settle u.name answer = .error cause) :
    p.Fails session disk submitter.sender answer u (.deployment cause) := by
  unfold settle at hsettle
  split at hsettle
  · cases hsettle
    exact Fails.unsubmitted hcode rfl
  · split at hsettle
    · rename_i receipt hsuccess
      split at hsettle
      · cases hsettle
      · rename_i hmissing
        cases hsettle
        exact Fails.missingAddress hcode rfl hsuccess hmissing
    · rename_i receipt hreverted
      cases hsettle
      exact Fails.reverted hcode rfl (Bool.not_eq_true _ ▸ hreverted)

/-- A failed deployment names the unit that failed. -/
theorem Fails.unit_eq {answer : Answer} {cause : DeploymentError}
    (hfails : p.Fails session disk submitter.sender answer u (.deployment cause)) :
    cause.unit = u.name := by
  generalize hfailure : Failure.deployment cause = failure at hfails
  cases hfails with
  | unbuilt hcode =>
    subst hfailure
    cases creationCode_eq_error hcode
    rfl
  | unsubmitted | reverted | missingAddress =>
    cases hfailure
    rfl
  | unwritten => cases hfailure

/-- The first deployment starts from the session and the disk as they are. -/
theorem deploys_nil {d : Deployment} :
    p.Deploys session disk submitter [] d ↔
      p.creationCode session submitter.sender d.unit = .ok d.code ∧
      submitter.next.Yields d.unit.name d.handle ∧
      ((session.holding d.handle).flush disk).1 = .ok () := by
  simp only [Deploys, List.map_nil, Session.holdingAll_nil, Session.diskAfter, List.length_nil,
    Submitter.next]

/-- After a first deployment, the later ones start from the session with its handle. -/
theorem deploys_cons {before : List Deployment} {d d' : Deployment}
    (hdisk : ((session.holding d.handle).flush disk).2 = disk') :
    p.Deploys session disk submitter (d :: before) d' ↔
      p.Deploys (session.holding d.handle) disk' submitter.rest before d' := by
  simp only [Deploys, List.map_cons, Session.holdingAll_cons, Session.diskAfter, hdisk,
    List.length_cons, Submitter.rest]

/-- A unit that fails after later deployments fails after the first one and them. -/
theorem Stops.after {done : List Deployment} {d : Deployment} {failure : Failure}
    (hdisk : ((session.holding d.handle).flush disk).2 = disk')
    (hstops : p.Stops (session.holding d.handle) disk' submitter.rest done u failure e) :
    p.Stops session disk submitter (d :: done) u failure (e.after d.code d.handle) := by
  obtain ⟨hfails, houtcome, hsubmitted, hio, hother⟩ := hstops
  refine ⟨?_, ?_, ?_, ?_, ?_⟩
  · simp only [List.map_cons, Session.holdingAll_cons, Session.diskAfter, hdisk, List.length_cons]
    exact hfails
  · exact Execution.outcome_after_eq_error.mpr houtcome
  · simpa [Execution.after, Submitter.rest] using hsubmitted
  · simpa [Execution.after, Submitter.rest] using hio
  · simpa [Execution.after] using hother

/-- A run deploys units in turn. Either they are all that the session does not hold, or the next
one of these fails. -/
theorem Runs.exists_deployments (hruns : Runs p units session disk submitter e)
    (hnodup : (units.map (·.name)).Nodup) :
    ∃ done : List Deployment, EachAfter (p.Deploys session disk submitter) done ∧
      ((unrecorded session units = done.map (·.unit) ∧ e.submitted = done.map (·.code) ∧
          e.outcome = .ok (done.map (·.handle)) ∧
          e.session = session.holdingAll (done.map (·.handle))) ∨
        ∃ u after failure, unrecorded session units = done.map (·.unit) ++ u :: after ∧
          p.Stops session disk submitter done u failure e) := by
  induction hruns with
  | done =>
    exact ⟨[], eachAfter_nil _, Or.inl ⟨rfl, rfl, rfl, (Session.holdingAll_nil _).symm⟩⟩
  | skipped hcontains _ ih =>
    rw [unrecorded_of_contains hcontains]
    exact ih (List.nodup_cons.mp hnodup).2
  | @unbuilt _ _ _ _ _ failure hnew hcode =>
    rw [unrecorded_of_new hnew]
    refine ⟨[], eachAfter_nil _, Or.inr ⟨_, _, failure, rfl, ?_⟩⟩
    constructor
    · simpa using Fails.unbuilt hcode
    · rfl
    · simp [hcode, Except.toOption]
    · rintro path cause rfl
      cases creationCode_eq_error hcode
    · simp
  | @unsettled _ _ _ _ _ _ cause hnew hcode hsettle =>
    rw [unrecorded_of_new hnew]
    refine ⟨[], eachAfter_nil _, Or.inr ⟨_, _, .deployment cause, rfl, ?_⟩⟩
    constructor
    · rw [List.map_nil, Session.holdingAll_nil]
      exact fails_of_settle_eq_error hcode hsettle
    · rfl
    · simp [hcode, Except.toOption]
    · rintro path cause ⟨⟩
    · simp
  | unwritten hnew hcode hsettle hflush =>
    obtain ⟨path, cause, rfl⟩ := Session.flush_eq_error (congrArg Prod.fst hflush)
    have hyields := settle_eq_ok.mp hsettle
    rw [unrecorded_of_new hnew]
    refine ⟨[], eachAfter_nil _, Or.inr ⟨_, _, .session (.io path cause), rfl, ?_⟩⟩
    constructor
    · exact Fails.unwritten (by simpa using hcode) hyields (by simp [Session.diskAfter, hflush])
    · rfl
    · simp [hcode, Except.toOption]
    · rintro _ _ ⟨⟩
      exact ⟨_, hyields, by simp⟩
    · exact fun hother => absurd rfl (hother path cause)
  | deployed hnew hcode hsettle hflush _ ih =>
    rename_i u units session disk disk' submitter code handle e hrest
    obtain ⟨hname, hnodup⟩ := List.nodup_cons.mp hnodup
    obtain ⟨done, heach, hend⟩ := ih hnodup
    have hdisk : ((session.holding handle).flush disk).2 = disk' := congrArg Prod.snd hflush
    rw [unrecorded_holding fun v hv hsame =>
      hname (List.mem_map.mpr ⟨v, hv, hsame.trans (settle_name hsettle)⟩)] at hend
    rw [unrecorded_of_new hnew]
    let first : Deployment := ⟨u, code, handle⟩
    refine ⟨first :: done, eachAfter_cons.mpr ⟨?_, ?_⟩, ?_⟩
    · exact deploys_nil.mpr ⟨hcode, settle_eq_ok.mp hsettle, congrArg Prod.fst hflush⟩
    · exact (eachAfter_congr fun _ _ _ _ => deploys_cons (d := first) hdisk).mpr heach
    · rcases hend with
        ⟨hunits, hsubmitted, houtcome, hsession⟩ | ⟨v, after, failure, hunits, hstops⟩
      · refine Or.inl ⟨by simp [first, hunits], ?_, ?_, ?_⟩
        · simp [first, Execution.after, hsubmitted]
        · exact Execution.outcome_after_eq_ok.mpr ⟨_, houtcome, rfl⟩
        · simpa [first, Execution.after] using hsession
      · have hlater := hstops.after (d := first) hdisk
        exact Or.inr ⟨v, after, failure, by simp [first, hunits], hlater⟩

/-- Whenever a built plan is executed, it deploys units that the session does not hold, each of them
once and in the order of the plan. If it succeeds, these are all of them, and the session ends with
their handles, which are also the outcome. If it fails, the next of the units fails, and nothing is
submitted after it: the outcome is its failure, it was submitted if its code could be built, and the
session ends with the handles of the units before it, and with its own one only if it was the file
that could not be written. -/
theorem execute_deployments (hbuild : Plan.build m registry = .ok p) (session : Session)
    (disk : Disk) (submitter : Submitter) :
    let missing := unrecorded session p.units
    let e := p.execute session disk submitter
    (missing.map (·.name)).Nodup ∧
    ∃ done : List Deployment, EachAfter (p.Deploys session disk submitter) done ∧
      (∀ handles, e.outcome = .ok handles → missing = done.map (·.unit) ∧
        e.submitted = done.map (·.code) ∧ handles = done.map (·.handle) ∧
        e.session = session.holdingAll handles) ∧
      ∀ failure, e.outcome = .error failure →
        ∃ u after, missing = done.map (·.unit) ++ u :: after ∧
          p.Stops session disk submitter done u failure e := by
  intro missing e
  have hnodup := (isPlanOf_of_build hbuild).nodup_order
  have hruns : Runs p p.units session disk submitter e := p.runs_executeUnits _ _ _ _
  clear_value e
  obtain ⟨done, heach, hend⟩ := hruns.exists_deployments hnodup
  refine ⟨(List.filter_sublist.map _).nodup hnodup, done, heach, ?_⟩
  rcases hend with
    ⟨hunits, hsubmitted, houtcome, hsession⟩ | ⟨u, after, failure, hunits, hstops⟩
  · refine ⟨fun handles hok => ?_, fun failure herror => ?_⟩
    · obtain rfl := Except.ok.inj (houtcome.symm.trans hok)
      exact ⟨hunits, hsubmitted, rfl, hsession⟩
    · cases houtcome.symm.trans herror
  · refine ⟨fun handles hok => ?_, fun failure' herror => ?_⟩
    · cases hstops.outcome_eq.symm.trans hok
    · obtain rfl := Except.error.inj (hstops.outcome_eq.symm.trans herror)
      exact ⟨u, after, hunits, hstops⟩

/-- A contract that links a library, into which another one is linked. -/
def stacked : Manifest :=
  ⟨[{ name := "App", links := ["Lib"] }, { name := "Lib", links := ["Base"] },
    { name := "Base" }]⟩

/-- The contract holds a placeholder for its library; all other codes are short. -/
def stackedRegistry : Registry := fun name =>
  .ok ⟨name, none, .empty,
    ⟨['6', '0'] ++ if name = "App" then legacyPlaceholder "Lib".toList else [], []⟩⟩

/-- When the third submission is reverted, the two libraries are deployed and the contract
fails. -/
theorem execute_deployments_of_stacked :
    ∃ p done u, Plan.build stacked stackedRegistry = .ok p ∧
      let submitter := Submitter.revertingFrom 2 (Address.repeating 9)
      let failure : Failure := .deployment (.reverted "App" (FixedBytes.replicate 32 2))
      EachAfter (p.Deploys (Session.new 1) .empty submitter) done ∧
      done.map (·.unit.name) = ["Base", "Lib"] ∧ u.name = "App" ∧
      p.Stops (Session.new 1) .empty submitter done u failure
        (p.execute (Session.new 1) .empty submitter) := by
  obtain ⟨p, hbuild, hnames, houtcome⟩ : ∃ p, Plan.build stacked stackedRegistry = .ok p ∧
      (unrecorded (Session.new 1) p.units).map (·.name) = ["Base", "Lib", "App"] ∧
      (p.execute (Session.new 1) .empty (.revertingFrom 2 (Address.repeating 9))).outcome =
        .error (.deployment (.reverted "App" (FixedBytes.replicate 32 2))) :=
    ⟨_, rfl, rfl, rfl⟩
  obtain ⟨-, done, heach, -, hfailed⟩ := execute_deployments hbuild (Session.new 1) .empty
    (.revertingFrom 2 (Address.repeating 9))
  obtain ⟨u, after, hunits, hstops⟩ := hfailed _ houtcome
  have hu : "App" = u.name := hstops.fails.unit_eq
  have hdone : done.map (·.unit.name) ++ u.name :: after.map (·.name) =
      ["Base", "Lib", "App"] := by
    rw [← hnames, hunits]
    simp [Function.comp_def]
  refine ⟨p, done, u, hbuild, heach, ?_, hu.symm, hstops⟩
  rw [← hu] at hdone
  rcases done with _ | ⟨a, _ | ⟨b, _ | ⟨c, done⟩⟩⟩ <;> simp_all

end Plan

end Rollout
