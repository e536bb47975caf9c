import Rollout.Proofs.Plan.History

/-!
# Resuming an execution

An execution that stopped because a deployment was not answered with an address leaves no trace of
that deployment. Executing the plan again starts with the same code, and together the two executions
are the one that would have been given the later answers at once.
-/

namespace Rollout

/-- The first submissions are answered as before, and the others by new answers. -/
def Submitter.continuing (s : Submitter) (count : ℕ) (answers : ℕ → Answer) : Submitter :=
  { s with answers := fun n => if n < count then s.answers n else answers (n - count) }

/-- After the first submissions, only the new answers are left. -/
theorem Submitter.skip_continuing (s : Submitter) (count : ℕ) (answers : ℕ → Answer) :
    (s.continuing count answers).skip count = ⟨s.sender, answers⟩ := by
  have hlater (n : ℕ) : ¬ n + count < count := by omega
  simp only [continuing, skip, if_neg (hlater _), Nat.add_sub_cancel]

namespace Plan

variable {p : Plan} {m : Manifest} {registry : Registry} {units : List PlannedUnit}
  {session : Session} {disk : Disk} {submitter : Submitter} {u : PlannedUnit} {e : Execution}
  {path : String} {chainId : UInt64}

/-- A run depends on the answers to its own submissions only. -/
theorem Runs.congr_answers (hruns : Runs p units session disk submitter e) {other : Submitter}
    (hsender : other.sender = submitter.sender)
    (hanswers : ∀ i < e.submitted.length, other.answers i = submitter.answers i) :
    Runs p units session disk other e := by
  induction hruns generalizing other with
  | done => exact Runs.done
  | skipped hcontains _ ih => exact Runs.skipped hcontains (ih hsender hanswers)
  | unbuilt hnew hcode => exact Runs.unbuilt hnew (hsender ▸ hcode)
  | unsettled hnew hcode hsettle =>
    refine Runs.unsettled hnew (hsender ▸ hcode) ?_
    rwa [Submitter.next, hanswers 0 Nat.one_pos]
  | unwritten hnew hcode hsettle hflush =>
    refine Runs.unwritten hnew (hsender ▸ hcode) ?_ hflush
    rwa [Submitter.next, hanswers 0 Nat.one_pos]
  | deployed hnew hcode hsettle hflush _ ih =>
    refine Runs.deployed hnew (hsender ▸ hcode) ?_ hflush (ih hsender fun i hi => ?_)
    · rwa [Submitter.next, hanswers 0 (Nat.succ_pos _)]
    · exact hanswers (i + 1) (Nat.succ_lt_succ hi)

/-- A run over a unit that is not recorded submits its code first. -/
theorem Runs.head?_submitted (hruns : Runs p (u :: units) session disk submitter e)
    (hnew : ¬ session.contains u.name) {code : List UInt8}
    (hcode : p.creationCode session submitter.sender u = .ok code) :
    e.submitted.head? = some code := by
  cases hruns with
  | skipped hcontains => exact absurd hcontains hnew
  | unbuilt _ herror => cases hcode.symm.trans herror
  | unsettled _ hcode' =>
    obtain rfl := Except.ok.inj (hcode.symm.trans hcode')
    rfl
  | unwritten _ hcode' =>
    obtain rfl := Except.ok.inj (hcode.symm.trans hcode')
    rfl
  | deployed _ hcode' =>
    obtain rfl := Except.ok.inj (hcode.symm.trans hcode')
    rfl

/-- A deployment that is not settled fails in the name of its unit. -/
theorem settle_unit {unit : String} {answer : Answer} {cause : DeploymentError}
    (hsettle : settle unit answer = .error cause) : cause.unit = unit := by
  unfold settle at hsettle
  split at hsettle
  · cases hsettle
    rfl
  · split at hsettle
    · split at hsettle
      · cases hsettle
      · cases hsettle
        rfl
    · cases hsettle
      rfl

/-- A unit whose deployment is not answered with an address was submitted and changed nothing. -/
theorem Runs.unsettled_inv (hruns : Runs p [u] session disk submitter e) {cause : DeploymentError}
    (herror : e.outcome = .error (.deployment cause))
    (hanswered : ∀ unit error, cause ≠ .encoding unit error) :
    ¬ session.contains u.name ∧ cause.unit = u.name ∧
      ∃ code, p.creationCode session submitter.sender u = .ok code ∧
        e = ⟨[code], session, disk, .error (.deployment cause)⟩ := by
  cases hruns with
  | skipped _ hrest =>
    cases hrest
    cases herror
  | unbuilt _ hcode =>
    obtain rfl := Except.error.inj herror
    cases creationCode_eq_error hcode
    exact absurd rfl (hanswered _ _)
  | unsettled hnew hcode hsettle =>
    cases herror
    exact ⟨hnew, settle_unit hsettle, _, hcode, rfl⟩
  | unwritten => cases herror
  | deployed _ _ _ _ hrest =>
    cases hrest
    cases herror

/-- To go on with new answers after a run that has not failed is to execute its units again, and the
next ones, from where it ended. -/
theorem Runs.executeUnits_continuing (hruns : Runs p units session disk submitter e)
    {handles : List Handle} (hok : e.outcome = .ok handles) (after : List PlannedUnit)
    (answers : ℕ → Answer) :
    p.executeUnits (units ++ after) session disk
        (submitter.continuing e.submitted.length answers) =
      e.followedBy
        (p.executeUnits (units ++ after) e.session e.disk ⟨submitter.sender, answers⟩) := by
  have hnext := p.runs_executeUnits after e.session e.disk ⟨submitter.sender, answers⟩
  rw [← (Runs.of_recorded (fun u hu => hruns.contains_of_ok hok hu) hnext).eq_executeUnits]
  have hagain : Runs p units session disk (submitter.continuing e.submitted.length answers) e :=
    hruns.congr_answers rfl fun i hi => if_pos hi
  refine (hagain.append hok ?_).eq_executeUnits.symm
  rw [Submitter.skip_continuing]
  exact hnext

/-- A run that stops because a deployment is not answered with an address is one that does not, over
the units before some unit, whose code is then submitted in vain. -/
theorem Runs.exists_unsettled (hruns : Runs p units session disk submitter e)
    (hnodup : (units.map (·.name)).Nodup) {cause : DeploymentError}
    (herror : e.outcome = .error (.deployment cause))
    (hanswered : ∀ unit error, cause ≠ .encoding unit error) :
    ∃ before u after first done code, units = before ++ u :: after ∧
      Runs p before session disk submitter first ∧
      EachAfter (p.Deploys session disk submitter) done ∧
      first.submitted = done.map (·.code) ∧ first.outcome = .ok (done.map (·.handle)) ∧
      ¬ first.session.contains u.name ∧ cause.unit = u.name ∧
      p.creationCode first.session submitter.sender u = .ok code ∧
      e = ⟨first.submitted ++ [code], first.session, first.disk, .error (.deployment cause)⟩ := by
  obtain ⟨before, u, after, first, last, rfl, hfirst, ⟨handles, hok⟩, hlast, hfailed, rfl⟩ :=
    hruns.exists_failing_unit herror
  obtain ⟨hnew, hname, code, hcode, rfl⟩ := hlast.unsettled_inv hfailed hanswered
  rw [List.map_append] at hnodup
  obtain ⟨done, heach, ⟨-, hsubmitted, houtcome, -⟩ | ⟨_, _, _, -, hstops⟩⟩ :=
    hfirst.exists_deployments (List.nodup_append.mp hnodup).1
  · refine ⟨before, u, after, first, done, code, rfl, hfirst, heach, hsubmitted, houtcome, hnew,
      hname, hcode, ?_⟩
    rw [Execution.followedBy, hok]
    rfl
  · cases hok.symm.trans hstops.outcome_eq

/-- When an execution of a built plan stops because a deployment is not answered with an address,
the session of the moment is what is opened from its file. Executing the plan again, on that session
or on the opened one, starts with the code that failed, and ends as a single execution does that is
given the answers of both: with the same failure or with all the handles, and with the same session
and files. -/
theorem execute_resumed (hbuild : Plan.build m registry = .ok p)
    (hopen : Session.openOrNew disk path chainId = .ok session) {cause : DeploymentError}
    (hstopped : (p.execute session disk submitter).outcome = .error (.deployment cause))
    (hanswered : ∀ unit error, cause ≠ .encoding unit error) :
    let stopped := p.execute session disk submitter
    Session.openOrNew stopped.disk path chainId = .ok stopped.session ∧
    ∃ (done : List Deployment) (u : PlannedUnit) (code : List UInt8),
      EachAfter (p.Deploys session disk submitter) done ∧ u ∈ p.units ∧ u.name = cause.unit ∧
      p.creationCode stopped.session submitter.sender u = .ok code ∧
      stopped.submitted = done.map (·.code) ++ [code] ∧
      ∀ left, left = stopped.session ∨ Session.openOrNew stopped.disk path chainId = .ok left →
        ∀ answers : ℕ → Answer,
          let resumed := p.execute left stopped.disk ⟨submitter.sender, answers⟩
          let single := p.execute session disk (submitter.continuing done.length answers)
          resumed.submitted.head? = some code ∧
          single.submitted = done.map (·.code) ++ resumed.submitted ∧
          single.outcome = resumed.outcome.map (done.map (·.handle) ++ ·) ∧
          single.session = resumed.session ∧ single.disk = resumed.disk := by
  intro stopped
  have hruns : Runs p p.units session disk submitter stopped := p.runs_executeUnits _ _ _ _
  have hreopen : Session.openOrNew stopped.disk path chainId = .ok stopped.session :=
    hruns.reopens (by simp [Execution.IsWritten, stopped, hstopped]) hopen
  obtain ⟨before, u, after, first, done, code, hunits, hfirst, heach, hsubmitted, hok, hnew, hname,
    hcode, hsplit⟩ :=
    hruns.exists_unsettled (isPlanOf_of_build hbuild).nodup_order hstopped hanswered
  clear_value stopped
  subst hsplit
  refine ⟨hreopen, done, u, code, heach, by simp [hunits], hname.symm, hcode, by rw [hsubmitted],
    fun left hleft answers => ?_⟩
  obtain rfl : left = first.session :=
    hleft.elim id fun hopened => Except.ok.inj (hopened.symm.trans hreopen)
  intro resumed single
  have hlength : first.submitted.length = done.length := by rw [hsubmitted, List.length_map]
  have hsingle : single = first.followedBy resumed := by
    have h := hfirst.executeUnits_continuing hok (u :: after) answers
    rwa [← hunits, hlength] at h
  have hrest : Runs p (u :: after) first.session first.disk ⟨submitter.sender, answers⟩
      resumed := by
    have h := p.runs_executeUnits (u :: after) first.session first.disk ⟨submitter.sender, answers⟩
    have hall := (Runs.of_recorded (fun v hv => hfirst.contains_of_ok hok hv) h).eq_executeUnits
    rwa [hall, ← hunits] at h
  refine ⟨hrest.head?_submitted hnew hcode, ?_, ?_, ?_, ?_⟩
  · rw [hsingle, ← hsubmitted]
    rfl
  · rw [hsingle, Execution.followedBy, hok]
    cases resumed.outcome <;> rfl
  · rw [hsingle]
    rfl
  · rw [hsingle]
    rfl

/-- A plan is stopped by a revert after two units. The session is reopened, and the same code is
submitted for the third one. -/
theorem execute_resumed_of_stacked :
    ∃ p done u code, Plan.build stacked stackedRegistry = .ok p ∧
      let submitter := Submitter.revertingFrom 2 (Address.repeating 9)
      let stopped := p.execute ((Session.new 1).persistTo "s.json") .empty submitter
      Session.openOrNew stopped.disk "s.json" 1 = .ok stopped.session ∧
      PlannedUnit.name u = "App" ∧ stopped.submitted = List.map Deployment.code done ++ [code] ∧
      ∀ answers : ℕ → Answer,
        let resumed := p.execute stopped.session stopped.disk ⟨submitter.sender, answers⟩
        let single := p.execute ((Session.new 1).persistTo "s.json") .empty
          (submitter.continuing done.length answers)
        resumed.submitted.head? = some code ∧ single.session = resumed.session := by
  obtain ⟨p, hbuild, hstopped⟩ : ∃ p, Plan.build stacked stackedRegistry = .ok p ∧
      (p.execute ((Session.new 1).persistTo "s.json") .empty
        (.revertingFrom 2 (Address.repeating 9))).outcome =
          .error (.deployment (.reverted "App" (FixedBytes.replicate 32 2))) :=
    ⟨_, rfl, rfl⟩
  have hopen : Session.openOrNew .empty "s.json" 1 = .ok ((Session.new 1).persistTo "s.json") := rfl
  obtain ⟨hreopen, done, u, code, -, -, hname, -, hsubmitted, hresumed⟩ :=
    execute_resumed hbuild hopen hstopped (by simp)
  refine ⟨p, done, u, code, hbuild, hreopen, hname, hsubmitted, fun answers => ?_⟩
  obtain ⟨hhead, -, -, hsession, -⟩ := hresumed _ (Or.inl rfl) answers
  exact ⟨hhead, hsession⟩

end Plan

end Rollout
